import AdminConsole.Number.Binary64

/-!
# Loading — tags of loads, and when to show that something is loading

Every load takes a tag one higher than the last; an answer counts only if its tag is the latest. A
loading mark becomes visible once a load has been running for a delay.
-/

namespace AdminConsole

/-- The tag of the latest load. -/
structure Sequencer where
  generation : Int := 0
  deriving DecidableEq, Repr, Inhabited

namespace Sequencer

/-- Takes the next tag. -/
def next (s : Sequencer) : Sequencer × Int := (⟨s.generation + 1⟩, s.generation + 1)

/-- Whether a tag is the latest. -/
def isCurrent (s : Sequencer) (tag : Int) : Bool := tag == s.generation

end Sequencer

/-- A loading mark: the delay in seconds, and when the load began. -/
structure LoadingMark where
  delay : Binary64
  startedAt : Option Binary64 := none
  deriving DecidableEq, Repr, Inhabited

namespace LoadingMark

/-- The delay without a setting: a fifth of a second. -/
def defaultDelay : Binary64 := ⟨0x3fc999999999999a⟩

/-- Whether a load is running. -/
def isLoading (m : LoadingMark) : Bool := m.startedAt.isSome

def start (m : LoadingMark) (clock : Binary64) : LoadingMark := { m with startedAt := some clock }

def finish (m : LoadingMark) : LoadingMark := { m with startedAt := none }

/-- The seconds since the load began, never less than zero. -/
def elapsed (m : LoadingMark) (now : Binary64) : Binary64 :=
  match m.startedAt with
  | none => .zero
  | some t =>
    let d := now.toFloat - t.toFloat
    if 0.0 < d then .ofFloat d else .zero

/-- Whether the mark is shown. -/
def isVisible (m : LoadingMark) (now : Binary64) : Bool :=
  m.isLoading && decide (m.delay.toFloat ≤ (m.elapsed now).toFloat)

end LoadingMark

end AdminConsole
