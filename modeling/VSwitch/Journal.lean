/-!
# The journal

What the library tells about its work: lines with a level, in order. Every state that computations
run over can take a line (`VSwitch.Journal`), whatever else it holds. A line is handed over as it
is, and put into words by whoever reads it.

* `VSwitch.debug`, `VSwitch.warn` and `VSwitch.complain` write a line of each level, and
  `VSwitch.warnOf` writes one that there may be no words for;
* `VSwitch.Logbook` holds lines and nothing else.
-/

namespace VSwitch

/-- How much a line matters. -/
inductive Level
  | debug | warn | error
  deriving DecidableEq, Repr

/-- A line of the journal. -/
structure Line where
  /-- How much it matters. -/
  level : Level
  /-- Its wording, if there are words for it. -/
  text : Option String
  deriving DecidableEq, Repr

/-- States that take lines. -/
class Journal (σ : Type) where
  /-- The state after taking a line. -/
  write : Line → σ → σ

/-- The second part of a pair takes the lines. -/
instance {τ σ : Type} [Journal σ] : Journal (τ × σ) where
  write l s := (s.1, Journal.write l s.2)

/-- Lines taken so far. -/
structure Logbook where
  /-- The lines, the newest first. -/
  newest : List Line
  deriving DecidableEq, Repr

namespace Logbook

/-- No lines. -/
def empty : Logbook := ⟨[]⟩

/-- The lines in the order in which they were taken. -/
def lines (b : Logbook) : List Line := b.newest.reverse

instance : Journal Logbook where
  write l b := ⟨l :: b.newest⟩

end Logbook

variable {σ : Type} {m : Type → Type} [MonadState σ m] [Journal σ]

/-- Notes what the library does. -/
def debug (text : String) : m Unit := modify (Journal.write ⟨.debug, some text⟩)

/-- Notes what went wrong and is got over. -/
def warn (text : String) : m Unit := modify (Journal.write ⟨.warn, some text⟩)

/-- Notes what went wrong and is got over, if there are words for it. -/
def warnOf (text : Option String) : m Unit := modify (Journal.write ⟨.warn, text⟩)

/-- Notes what ends a listener. -/
def complain (text : String) : m Unit := modify (Journal.write ⟨.error, some text⟩)

end VSwitch
