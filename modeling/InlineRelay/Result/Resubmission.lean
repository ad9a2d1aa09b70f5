import InlineRelay.Result.Candidate

/-! From the form results are fetched in to the form they are submitted in. -/
namespace InlineRelay

/-- A mention by name refers to its user in input form. -/
def EntityKind.submitted : EntityKind → EntityKind
  | mentionName => inputMentionName
  | k => k

def Entity.submitted (e : Entity) : Entity := { e with kind := e.kind.submitted }

def Place.submitted (p : Place .fetched) : Place .submitted := ⟨p.kind, p.extra⟩

def Message.submitted (m : Message .fetched) : Message .submitted where
  kind := m.kind
  text := m.text
  entities := m.entities.map fun es => es.map Entity.submitted
  place := m.place.map Place.submitted
  extra := m.extra

def Body.submitted (b : Body .fetched) : Body .submitted where
  id := b.id
  kind := b.kind
  message := b.message.submitted
  extra := b.extra

/-- Why a result cannot be submitted. -/
structure GameError where
  resultId : String
  deriving DecidableEq, Repr

def Candidate.submission : Candidate → Except GameError Submission
  | text b => .ok (.text b.submitted)
  | photo b => .ok (.photo b.submitted)
  | document b => .ok (.document b.submitted)
  | game b => .error ⟨b.id⟩

/-- The submissions of results without a game among them. -/
def Candidate.submissions (cs : List Candidate) : Except GameError (List Submission) :=
  cs.mapM Candidate.submission

end InlineRelay
