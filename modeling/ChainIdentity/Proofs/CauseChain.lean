import ChainIdentity.Fault.Context
import Mathlib.Data.List.Infix
import Mathlib.Data.List.TakeWhile

/-!
# The way down as one text

What the journal shows of the causes of an error is one text with the messages of all of them, each
freed of a web page that may stand in it.  `Page.Holds` says what gives a page away, namely one of
three tags anywhere in the text, and `Page.Frees` what is left of a text without it, both without
the reader.

Every tag has a bracket, and a text with a page is cut at its first one, so `removeText` leaves no
tag.  The chain has none either, because a tag cannot reach over a seam: both ends of what stands
between two messages are characters that are in no tag (`tagless_append_cons_iff`).

`chain_complete` is the main statement: the chain has the message of every cause on the way down, in
this order, and no page.
-/

namespace ChainIdentity

open Text

/-! ## Texts in texts -/

section

variable {α : Type} {c : α} {inner front rest : List α}

/-- What lacks a character does not start with it. -/
theorem eq_nil_of_prefix_cons (lacks : c ∉ inner) (starts : inner <+: c :: rest) : inner = [] := by
  rcases List.prefix_cons_iff.mp starts with nothing | ⟨further, rfl, -⟩
  · exact nothing
  · exact absurd List.mem_cons_self lacks

/-- What lacks a character does not reach over it. -/
theorem infix_append_cons_iff (lacks : c ∉ inner) :
    inner <:+: front ++ c :: rest ↔ inner <:+: front ∨ inner <:+: rest := by
  constructor
  · intro within
    rcases List.infix_append_iff.mp within with before | behind | ⟨first, last, rfl, ends, starts⟩
    · exact .inl before
    · rcases List.infix_cons_iff.mp behind with starts | behind
      · rw [eq_nil_of_prefix_cons lacks starts]
        exact .inl List.nil_infix
      · exact .inr behind
    · obtain rfl := eq_nil_of_prefix_cons (mt (List.mem_append_right first) lacks) starts
      rw [List.append_nil]
      exact .inl ends.isInfix
  · rintro (before | behind)
    · exact before.trans (List.prefix_append front (c :: rest)).isInfix
    · exact behind.trans ((List.suffix_cons c rest).trans (List.suffix_append front _)).isInfix

end

namespace Page

/-- The search for a pattern at the front decides whether the pattern leads up to the text. -/
theorem startsWith_iff (pattern cs : List Char) :
    startsWith pattern cs = true ↔ pattern <+: cs := by
  induction pattern generalizing cs with
  | nil => simp [startsWith]
  | cons p pattern ih =>
    cases cs with
    | nil => simp [startsWith]
    | cons c cs =>
      rw [startsWith, Bool.and_eq_true, beq_iff_eq, ih, List.cons_prefix_cons]

/-- The search for a pattern decides whether it stands anywhere in the text. -/
theorem contains_iff (pattern cs : List Char) : contains pattern cs = true ↔ pattern <:+: cs := by
  induction cs with
  | nil => rw [contains, List.isEmpty_iff, List.infix_nil]
  | cons c cs ih => rw [contains, Bool.or_eq_true, startsWith_iff, ih, List.infix_cons_iff]

/-! ## Texts without tags -/

/-- None of the tags stands anywhere among the characters. -/
def Tagless (cs : List Char) : Prop :=
  ∀ tag ∈ tags, ¬ tag <:+: cs

/-- What is not taken for a page has none of the tags. -/
theorem isPage_eq_false_iff (cs : List Char) : isPage cs = false ↔ Tagless cs := by
  unfold isPage Tagless
  simp only [List.any_eq_false, contains_iff]

/-- Every tag starts with a bracket. -/
theorem tagless_of_notMem {cs : List Char} (lacks : '<' ∉ cs) : Tagless cs := by
  have opened : ∀ tag ∈ tags, '<' ∈ tag := by decide
  exact fun tag among within => lacks (within.subset (opened tag among))

/-- No tag reaches over a character that is in none of them. -/
theorem tagless_append_cons_iff {c : Char} (foreign : ∀ tag ∈ tags, c ∉ tag)
    {front rest : List Char} : Tagless (front ++ c :: rest) ↔ Tagless front ∧ Tagless rest := by
  unfold Tagless
  rw [← forall₂_and]
  refine forall₂_congr fun tag among => ?_
  rw [infix_append_cons_iff (foreign tag among), not_or]

/-- No character is put in where blanks are taken away. -/
theorem trim_subset (cs : List Char) : trim cs ⊆ cs := by
  unfold trim trimEnd trimStart
  intro c among
  have behind := (List.dropWhile_suffix isBlank).subset (List.mem_reverse.mp among)
  exact (List.dropWhile_suffix isBlank).subset (List.mem_reverse.mp behind)

/-- Characters without a tag are left as they are. -/
theorem remove_of_tagless {cs : List Char} (tagless : Tagless cs) : remove cs = cs := by
  rw [remove, (isPage_eq_false_iff cs).mpr tagless, if_neg Bool.false_ne_true]

/-- No tag is left, not even one that the cut would have put together. -/
theorem remove_tagless (cs : List Char) : Tagless (remove cs) := by
  unfold remove
  split
  · refine tagless_of_notMem fun among => ?_
    have kept := List.mem_takeWhile_imp (trim_subset _ among)
    simp at kept
  · rename_i noPage
    exact (isPage_eq_false_iff cs).mp (Bool.eq_false_iff.mpr noPage)

/-! ## Texts without pages -/

/-- One of the tags of a web page stands somewhere in the text. -/
def Holds (text : String) : Prop :=
  ∃ tag ∈ ["<html>", "<head>", "<body>"], tag.toList <:+: text.toList

/-- What is left of a text that may hold a page. -/
inductive Frees (text : String) : String → Prop
  /-- A text without a page is left as it is. -/
  | whole (plain : ¬ Holds text) : Frees text text
  /-- Of a text with a page, what stands in front of the first bracket is left, without the blanks
  at its ends. -/
  | front {front rest : List Char} (page : Holds text) (cut : text.toList = front ++ '<' :: rest)
      (first : '<' ∉ front) : Frees text (String.ofList (trim front))

/-- The characters of a text are without tags exactly if it holds none of them. -/
theorem tagless_toList_iff (text : String) : Tagless text.toList ↔ ¬ Holds text := by
  unfold Tagless Holds
  simp only [tags, List.forall_mem_cons, List.not_mem_nil, false_implies, implies_true,
    List.exists_mem_cons_iff, false_and, exists_false, not_or, and_true, or_false]

/-- What is left of a text holds no tag. -/
theorem not_holds_removeText (text : String) : ¬ Holds (removeText text) := by
  rw [← tagless_toList_iff, removeText, String.toList_ofList]
  exact remove_tagless text.toList

/-- A text without a page is left as it is. -/
theorem removeText_of_not_holds {text : String} (plain : ¬ Holds text) :
    removeText text = text := by
  rw [removeText, remove_of_tagless ((tagless_toList_iff text).mpr plain), String.ofList_toList]

/-- Exactly the texts without a page are left as they are. -/
theorem removeText_eq_self_iff {text : String} : removeText text = text ↔ ¬ Holds text := by
  constructor
  · intro same
    rw [← same]
    exact not_holds_removeText text
  · exact removeText_of_not_holds

/-- What is left of a text is what should be left of it. -/
theorem frees_removeText (text : String) : Frees text (removeText text) := by
  by_cases page : Holds text
  · have bracket : '<' ∈ text.toList := by
      by_contra lacks
      exact (tagless_toList_iff text).mp (tagless_of_notMem lacks) page
    obtain ⟨front, rest, cut, first⟩ := List.eq_append_cons_of_mem bracket
    have isPage : isPage text.toList = true := by
      rw [← Bool.not_eq_false, isPage_eq_false_iff, tagless_toList_iff, not_not]
      exact page
    have kept : (front ++ '<' :: rest).takeWhile (· != '<') = front := by
      rw [List.takeWhile_append_of_pos, List.takeWhile_cons_of_neg (by decide), List.append_nil]
      intro c among
      rw [bne_iff_ne]
      rintro rfl
      exact first among
    rw [removeText, remove, if_pos isPage, cut, kept]
    exact .front page cut first
  · rw [removeText_of_not_holds page]
    exact .whole page

/-- A text with a page is cut at its first bracket, which need not be that of a tag. -/
example : removeText "size < 5 <html></html>" = "size" := by decide +kernel

end Page

/-! ## The chain -/

namespace Cause

/-- The error that lies so many steps behind an error. -/
def behind? : ℕ → Cause → Option Cause
  | 0, cause => some cause
  | steps + 1, cause => cause.source?.bind (behind? steps)

/-- The texts on the way down are those of the errors behind one another, to the end. -/
theorem messages_getElem? (cause : Cause) (steps : ℕ) :
    cause.messages[steps]? = (cause.behind? steps).map message := by
  induction cause generalizing steps with
  | last text trace =>
    cases steps with
    | zero => rfl
    | succ steps => rfl
  | before text trace source ih =>
    cases steps with
    | zero => rfl
    | succ steps => exact ih steps

/-- Every error has a text, its own. -/
theorem messages_ne_nil (cause : Cause) : cause.messages ≠ [] := by
  cases cause with
  | last => exact List.cons_ne_nil _ _
  | before => exact List.cons_ne_nil _ _

/-- The chain is made of the texts on the way down, without their pages and with a mark between
them. -/
theorem chain_eq_intercalate (cause : Cause) :
    cause.chain = "\n\tCaused by: ".intercalate (cause.messages.map Page.removeText) := by
  induction cause with
  | last text trace => exact String.intercalate_singleton.symm
  | before text trace source ih =>
    obtain ⟨next, further, split⟩ := List.exists_cons_of_ne_nil source.messages_ne_nil
    rw [chain, ih, messages, split, List.map_cons, List.map_cons, List.map_cons,
      String.intercalate_cons_cons]

/-- No page reaches over what stands between two messages. -/
theorem not_holds_chain (cause : Cause) : ¬ Page.Holds cause.chain := by
  induction cause with
  | last text trace => exact Page.not_holds_removeText text
  | before text trace source ih =>
    rw [← Page.tagless_toList_iff] at ih ⊢
    have seam : "\n\tCaused by: ".toList = '\n' :: ("\tCaused by:".toList ++ [' ']) := by decide
    have between : Page.Tagless "\tCaused by:".toList := Page.tagless_of_notMem (by decide)
    have front := Page.remove_tagless text.toList
    rw [chain, Page.removeText, String.toList_append, String.toList_append, String.toList_ofList,
      seam, List.append_assoc, List.cons_append, List.append_assoc,
      Page.tagless_append_cons_iff (by decide), List.singleton_append,
      Page.tagless_append_cons_iff (by decide)]
    exact ⟨front, between, ih⟩

/-- What the journal shows of a cause.  It is the message of the cause and those of all errors
behind it in their order, each freed of its page, with the same text in between.  Freeing leaves
exactly the texts without a page as they are and does not change anything twice, and neither a freed
text nor the whole chain holds a page.  It is this text that an error with the cause is logged
with. -/
theorem chain_complete (cause : Cause) :
    cause.chain = "\n\tCaused by: ".intercalate (cause.messages.map Page.removeText) ∧
    (∀ steps, cause.messages[steps]? = (cause.behind? steps).map message) ∧
    (∀ text, Page.Frees text (Page.removeText text) ∧
      (Page.removeText text = text ↔ ¬ Page.Holds text) ∧
      Page.removeText (Page.removeText text) = Page.removeText text) ∧
    ¬ Page.Holds cause.chain ∧
    ∀ note trace journal, ∃ event,
      ((Context.mk note trace (some cause)).log journal).2.events = journal.events ++ [event] ∧
      event.level = .error ∧ ("error.chain", FieldValue.shown cause.chain) ∈ event.fields := by
  refine ⟨cause.chain_eq_intercalate, cause.messages_getElem?, fun text => ?freed,
    cause.not_holds_chain, fun note trace journal => ?logged⟩
  case freed =>
    exact ⟨Page.frees_removeText text, Page.removeText_eq_self_iff,
      Page.removeText_of_not_holds (Page.not_holds_removeText text)⟩
  case logged => exact ⟨_, rfl, rfl, by simp⟩

end Cause

end ChainIdentity
