/-!
# Terminal control sequences

Log files hold plain text.  A colour or cursor sequence is the escape character, an opening
bracket, any digits and semicolons, and one ASCII letter; `strip` removes every such sequence
in one pass from left to right.  What follows a removed sequence is read on its own, so two
fragments that only meet because something between them was removed are not taken for a
sequence.

A sequence that is cut off before its letter is ordinary text.
-/

namespace ChainIdentity.Text.Terminal

/-- A digit or semicolon, as it stands between the bracket and the letter. -/
def isParameter (c : Char) : Bool :=
  ('0' ≤ c && c ≤ '9') || c == ';'

/-- An ASCII letter, which ends a sequence. -/
def isFinal (c : Char) : Bool :=
  ('a' ≤ c && c ≤ 'z') || ('A' ≤ c && c ≤ 'Z')

/-- What follows a control sequence at the front of the text, if there is one. -/
def afterSequence? : List Char → Option (List Char)
  | '\x1b' :: '[' :: rest =>
    match rest.dropWhile isParameter with
    | c :: after => if isFinal c then some after else none
    | [] => none
  | _ => none

/-- Removing a sequence shortens the text. -/
theorem length_afterSequence? {cs rest : List Char} (h : afterSequence? cs = some rest) :
    rest.length < cs.length := by
  unfold afterSequence? at h
  split at h
  · rename_i tail
    have hd : (tail.dropWhile isParameter).length ≤ tail.length := by
      have := (List.dropWhile_sublist isParameter (l := tail)).length_le
      exact this
    split at h
    · rename_i c after heq
      rw [heq] at hd
      split at h
      · simp only [Option.some.injEq] at h
        subst h
        simp only [List.length_cons] at hd ⊢
        omega
      · simp at h
    · simp at h
  · simp at h

/-- The text without its control sequences, read once from left to right. -/
def strip (cs : List Char) : List Char :=
  match cs with
  | [] => []
  | c :: rest =>
    match h : afterSequence? (c :: rest) with
    | some after =>
      have : after.length < (c :: rest).length := length_afterSequence? h
      strip after
    | none => c :: strip rest
termination_by cs.length
decreasing_by
  · assumption
  · exact Nat.lt_succ_self _

/-- `strip` on text. -/
def stripText (s : String) : String :=
  String.ofList (strip s.toList)

end ChainIdentity.Text.Terminal
