import ShaderDowngrade.Command.Console
import ShaderDowngrade.Proofs.Chain.Steps
import ShaderDowngrade.Proofs.Command.CommandLines
import ShaderDowngrade.Proofs.Markup.Messages

/-!
# What is asked of a console

Whatever a console does, commands have to rely on three things. A command line that is written out
is understood. A text in which no control sequence can begin, because no escape is in it, is shown
as it is. And a message can be shown if the only marks in it are those that the program puts there,
which is so if nothing that it quotes has an opening bracket. A console of which this holds is
lawful.

Main statement: `Console.lawful_standard`, the usual console is lawful.

## What is left open

How other command lines are taken, what becomes of escapes, what a message with marks looks like and
how wide a table is: none of this is asked of a console, so what is proved about lawful consoles
does not depend on it.
-/

namespace ShaderDowngrade.Console

/-- What commands rely on. -/
structure Lawful (console : Console) : Prop where
  /-- An invocation that is written out is understood. -/
  read_eq : ∀ isUnreadable args i, Invocation.Written isUnreadable args i →
    console.read isUnreadable args = .ok i
  /-- What has no escape is shown as it is. -/
  plain_eq : ∀ text, '\x1b' ∉ text → console.plain text = text
  /-- What has no opening bracket can be shown as a message. -/
  exists_marked : ∀ message : String, '[' ∉ message.toList →
    ∃ shown, console.marked message = .ok shown
  /-- So can a message that begins with a styled part. -/
  exists_marked_styled : ∀ style ∈ Markup.messageStyles, ∀ inner rest : String,
    '[' ∉ inner.toList → '[' ∉ rest.toList →
      ∃ shown, console.marked ("[" ++ style ++ "]" ++ inner ++ "[/" ++ style ++ "]" ++ rest) =
        .ok shown

/-- A command line asks for an invocation: it is the invocation written out, or the console takes it
for that, which it may do in other spellings and orders. -/
def Accepts (console : Console) (isUnreadable : String → Bool) (args : List String)
    (i : Invocation) : Prop :=
  Invocation.Written isUnreadable args i ∨ console.read isUnreadable args = .ok i

theorem Lawful.read_of_accepts {console : Console} (h : console.Lawful)
    {isUnreadable : String → Bool} {args : List String} {i : Invocation}
    (hargs : console.Accepts isUnreadable args i) : console.read isUnreadable args = .ok i := by
  rcases hargs with hwritten | hread
  · exact h.read_eq _ _ _ hwritten
  · exact hread

theorem withoutControls_of_notMem {text : Text} (h : '\x1b' ∉ text) :
    withoutControls text = text := by
  have hrewrites := Pattern.rewrites_replaceWith (p := controlSequence) (by rfl)
    (Pattern.nil_notMem_words (by rfl)) (fun _ ↦ []) text
  refine hrewrites.eq_of_not_occurs ?_
  rintro ⟨w, ⟨g, hw⟩, hpart⟩
  obtain ⟨v, rfl, -⟩ := (Expr.spells_seqAll_map_char_append (w := ['\x1b'])).1 hw
  exact h (hpart.subset (by simp))

theorem exists_marked_standard {message : String}
    (h : ∃ shown, Markup.read message.toList = .ok shown) :
    ∃ shown, standard.marked message = .ok shown := by
  obtain ⟨shown, hshown⟩ := h
  refine ⟨Lines.printed terminalWidth shown, ?_⟩
  change (Markup.read message.toList).map _ = _
  rw [hshown]
  rfl

/-- **The usual console is lawful.** -/
theorem lawful_standard : standard.Lawful where
  read_eq _ _ _ := Invocation.Written.ofArgs_eq
  plain_eq _ := withoutControls_of_notMem
  exists_marked message h := exists_marked_standard ⟨_, Markup.read_of_notMem h⟩
  exists_marked_styled := by
    intro style hstyle inner rest hinner hrest
    obtain ⟨shown, hshown⟩ := Markup.exists_read_styled hstyle hinner hrest
    refine exists_marked_standard ⟨shown, ?_⟩
    rw [← hshown]
    simp

end ShaderDowngrade.Console
