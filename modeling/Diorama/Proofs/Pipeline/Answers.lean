import Diorama.Pipeline.Generator
import Diorama.Proofs.Json.Tokens

/-! Data in the prose of an answer. The text of some data is found in a block and outside of one, unless it has a fence
within one of its strings: there its block ends too early, and what is left is the text of no data. -/

namespace Diorama.Answer

variable {text tail : String} {v : Value} {mark prose rest front back : List Char}

def jsonMark : List Char := fence ++ "json".toList

def Plain (text : List Char) : Prop := ∀ c ∈ text, c ∉ fence

def Follows (tail : String) : Prop := tail = "" ∨ ∃ prose, tail = "\n" ++ prose ∧ Plain prose.toList

lemma fence_ne_nil : fence ≠ [] := by decide

lemma jsonMark_ne_nil : jsonMark ≠ [] := by decide

lemma newline_not_mem_fence : '\n' ∉ fence := by decide

lemma newline_not_mem_jsonMark : '\n' ∉ jsonMark := by decide

lemma fence_infix_jsonMark : fence <:+: jsonMark := (List.prefix_append fence "json".toList).isInfix

lemma not_infix_of_plain (h : Plain prose) : ¬fence <:+: prose := by
  obtain ⟨c, hc⟩ := List.exists_mem_of_ne_nil _ fence_ne_nil
  exact Text.not_infix_of_not_mem hc fun hmem => h c hmem hc

lemma plain_of_blanks (h : ∀ c ∈ front, Text.isBlank c = true) : Plain front := by
  have hall : fence.all (Text.isBlank · == false) = true := by decide
  intro c hmem hc
  have hsolid := List.all_eq_true.mp hall c hc
  rw [h c hmem] at hsolid
  cases hsolid

lemma body_eq (text : List Char) : body text = ((fenced? jsonMark text).or (fenced? fence text)).getD text := rfl

lemma foreign_fence : ∀ c ∈ fence.head?, Token.Foreign c := fun c hc => by
  obtain rfl := Option.some.inj hc
  exact ⟨rfl, by decide, by decide⟩

lemma ofText?_eq_of_lex {s t : String} (h : Token.lex s.toList = Token.lex t.toList) :
    Value.ofText? s = Value.ofText? t := by
  rw [Value.ofText?, Value.ofText?, Value.spelled?, Value.spelled?, Json.spelled?, Json.spelled?, h]

lemma exists_lex (h : Value.ofText? text = some v) : ∃ tokens, Token.lex text.toList = some tokens := by
  rw [Value.ofText?, Value.spelled?, Json.spelled?] at h
  cases hlex : Token.lex text.toList with
  | none =>
    rw [hlex] at h
    cases h
  | some tokens => exact ⟨tokens, rfl⟩

lemma ofText?_eq_none (h : Token.lex text.toList = none) : Value.ofText? text = none := by
  rw [Value.ofText?, Value.spelled?, Json.spelled?, h]
  rfl

lemma ofText?_trimmed (h : Value.ofText? text = some v) :
    Value.ofText? (.ofList (Text.trimChars text.toList)) = some v := by
  obtain ⟨tokens, hlex⟩ := exists_lex h
  rw [← h]
  refine ofText?_eq_of_lex ?_
  rw [String.toList_ofList, Token.lex_trimChars hlex, hlex]

lemma fenced?_skip (hmark : mark ≠ []) (h : ∀ c ∈ mark.head?, c ∉ prose) (rest : List Char) :
    fenced? mark (prose ++ (mark ++ rest)) = some (Text.before fence rest) := by
  rw [fenced?, Text.after?_skip hmark h, Text.after?_self]
  rfl

lemma lex_before_fence {chars : List Char} {tokens : List Token} (h : Token.lex chars = some tokens)
    (hfence : fence <:+: chars) : Token.lex (Text.trimChars ('\n' :: Text.before fence chars)) = none := by
  obtain ⟨more, hchars, -⟩ := Text.before_append hfence
  obtain ⟨front, back, hfront, hback, hcut⟩ := Text.trimChars_spec ('\n' :: Text.before fence chars)
  obtain ⟨c, marks, hmark⟩ := List.exists_cons_of_ne_nil fence_ne_nil
  have hwhole : front ++ (Text.trimChars ('\n' :: Text.before fence chars) ++ (back ++ c :: (marks ++ more))) =
      '\n' :: chars := by
    rw [← List.append_assoc _ back, ← List.append_assoc front, ← hcut, ← List.cons_append, ← hmark, List.cons_append,
      ← List.append_assoc, ← hchars]
  have hnewline : Token.Lexed ('\n' :: chars) [] chars := Token.lexed_blank rfl
  rw [Token.Lexed, h, ← hwhole] at hnewline
  exact Token.lex_cut hfront hback (foreign_fence c (by rw [hmark]; rfl)) hnewline

/-- The lines of a block that holds the text of some data are read as the data, unless there is a fence in it. -/
lemma ofText?_block (h : Value.ofText? text = some v) (tail : List Char) :
    Value.ofText? (.ofList (Text.trimChars (Text.before fence ('\n' :: (text.toList ++ '\n' :: (fence ++ tail)))))) =
      if Text.contains text.toList fence then none else some v := by
  rw [Text.before_cons_of_not_mem newline_not_mem_fence fence_ne_nil]
  cases hfence : Text.contains text.toList fence with
  | false =>
    have hnewline : ∀ c ∈ ['\n'], Text.isBlank c = true := List.forall_mem_singleton.mpr rfl
    have htrim := Text.trimChars_append hnewline hnewline text.toList
    rw [List.singleton_append, List.cons_append] at htrim
    rw [Text.before_parted newline_not_mem_fence fence_ne_nil (Text.contains_eq_false_iff.mp hfence), htrim]
    exact ofText?_trimmed h
  | true =>
    obtain ⟨tokens, hlex⟩ := exists_lex h
    have hinfix := Text.contains_iff.mp hfence
    obtain ⟨-, -, hbefore⟩ := Text.before_append hinfix
    refine ofText?_eq_none ?_
    rw [hbefore, String.toList_ofList]
    exact lex_before_fence hlex hinfix

structure Holds (text : String) (v : Value) : Prop where
  marked : ∀ prose tail, Plain prose.toList → Follows tail →
    value? (prose ++ "```json\n" ++ text ++ "\n```" ++ tail) =
      if Text.contains text.toList fence then none else some v
  bare : Text.contains text.toList jsonMark = false → ∀ prose tail, Plain prose.toList → Follows tail →
    value? (prose ++ "```\n" ++ text ++ "\n```" ++ tail) =
      if Text.contains text.toList fence then none else some v
  alone : Text.contains text.toList fence = false → ∀ front back, Text.isBlankText front = true →
    Text.isBlankText back = true → value? (front ++ text ++ back) = some v

lemma toList_block (prose mark text tail : String) : (prose ++ (mark ++ "\n") ++ text ++ "\n```" ++ tail).toList =
    prose.toList ++ (mark.toList ++ ('\n' :: (text.toList ++ '\n' :: (fence ++ tail.toList)))) := by
  have hend : "\n```".toList = '\n' :: fence := rfl
  simp [String.toList_append, hend]

lemma head_not_mem (hprose : Plain prose) : ∀ c ∈ jsonMark.head?, c ∉ prose :=
  fun c hc hmem => hprose c hmem (List.mem_of_head? hc)

lemma body_marked (hprose : Plain prose) (block : List Char) :
    body (prose ++ (jsonMark ++ block)) = Text.before fence block := by
  rw [body_eq, fenced?_skip jsonMark_ne_nil (head_not_mem hprose)]
  rfl

lemma not_infix_tail (htail : Follows tail) : ¬jsonMark <:+: fence ++ tail.toList := by
  have hfence : ¬jsonMark <:+: fence := Text.not_infix_of_length (by decide)
  rcases htail with rfl | ⟨prose, rfl, hprose⟩
  · exact hfence
  · rw [String.toList_append]
    intro h
    rcases Text.infix_append_cons newline_not_mem_jsonMark h with h | h
    · exact hfence h
    · exact not_infix_of_plain hprose (fence_infix_jsonMark.trans h)

lemma body_bare (hprose : Plain prose) (htail : Follows tail) (h : ¬jsonMark <:+: rest) :
    body (prose ++ (fence ++ ('\n' :: (rest ++ '\n' :: (fence ++ tail.toList))))) =
      Text.before fence ('\n' :: (rest ++ '\n' :: (fence ++ tail.toList))) := by
  have hnone : fenced? jsonMark (prose ++ (fence ++ ('\n' :: (rest ++ '\n' :: (fence ++ tail.toList))))) = none := by
    rw [fenced?, Option.map_eq_none_iff, Text.after?_skip jsonMark_ne_nil (head_not_mem hprose),
      Text.after?_eq_none_iff]
    intro hmark
    rcases Text.infix_append_cons newline_not_mem_jsonMark hmark with hmark | hmark
    · exact Text.not_infix_of_length (by decide) hmark
    · exact (Text.infix_append_cons newline_not_mem_jsonMark hmark).elim h (not_infix_tail htail)
  rw [body_eq, hnone, fenced?_skip fence_ne_nil (head_not_mem hprose)]
  rfl

lemma body_alone (h : ¬fence <:+: rest) : body rest = rest := by
  have hmark : ¬jsonMark <:+: rest := fun hmark => h (fence_infix_jsonMark.trans hmark)
  rw [body_eq, fenced?, fenced?, Text.after?_eq_none_iff.mpr h, Text.after?_eq_none_iff.mpr hmark]
  rfl

lemma not_infix_between (hfront : Plain front) (hback : Plain back) (h : ¬fence <:+: rest) :
    ¬fence <:+: front ++ (rest ++ back) := by
  have hhead : ∀ c ∈ fence.head?, c ∉ front := fun c hc hmem => hfront c hmem (List.mem_of_head? hc)
  rw [← Text.after?_eq_none_iff, Text.after?_skip fence_ne_nil hhead, Text.after?_eq_none_iff]
  cases back with
  | nil => rwa [List.append_nil]
  | cons c back =>
    intro hfence
    rcases Text.infix_append_cons (hback c List.mem_cons_self) hfence with hfence | hfence
    · exact h hfence
    · exact not_infix_of_plain (fun d hd => hback d (List.mem_cons_of_mem c hd)) hfence

theorem value?_holds (h : Value.ofText? text = some v) : Holds text v := by
  refine ⟨fun prose tail hprose htail => ?_, fun hmark prose tail hprose htail => ?_,
    fun hfence front back hfront hback => ?_⟩
  · have htext := toList_block prose "```json" text tail
    have hbody := body_marked hprose ('\n' :: (text.toList ++ '\n' :: (fence ++ tail.toList)))
    rw [value?, ← ofText?_block h tail.toList, ← hbody]
    exact congrArg (fun l => Value.ofText? (.ofList (Text.trimChars (body l)))) htext
  · have htext := toList_block prose "```" text tail
    have hbody := body_bare hprose htail (Text.contains_eq_false_iff.mp hmark)
    rw [value?, ← ofText?_block h tail.toList, ← hbody]
    exact congrArg (fun l => Value.ofText? (.ofList (Text.trimChars (body l)))) htext
  · have hfront := List.all_eq_true.mp hfront
    have hback := List.all_eq_true.mp hback
    have hinfix := Text.contains_eq_false_iff.mp hfence
    have hnot := not_infix_between (plain_of_blanks hfront) (plain_of_blanks hback) hinfix
    rw [value?, String.toList_append, String.toList_append, List.append_assoc, body_alone hnot, ← List.append_assoc,
      Text.trimChars_append hfront hback, ofText?_trimmed h]

def moodText : String := "\x7b\"mood\": \"serene\"\x7d"

theorem value?_holds_mood : ∃ v, Value.ofText? moodText = some v ∧ Text.contains moodText.toList fence = false ∧
    Plain "Here you go:\n".toList ∧ Follows "\nEnjoy." ∧
      value? ("Here you go:\n" ++ "```json\n" ++ moodText ++ "\n```" ++ "\nEnjoy.") = some v := by
  have hmood : (Value.ofText? moodText).isSome = true := by decide +kernel
  have hfence : Text.contains moodText.toList fence = false := by decide +kernel
  have hprose : Plain "Here you go:\n".toList := by simp [Plain, fence]
  have htail : Follows "\nEnjoy." := .inr ⟨"Enjoy.", rfl, by simp [Plain, fence]⟩
  obtain ⟨v, hv⟩ := Option.isSome_iff_exists.mp hmood
  have hread := (value?_holds hv).marked "Here you go:\n" "\nEnjoy." hprose htail
  rw [hfence] at hread
  exact ⟨v, hv, hfence, hprose, htail, hread⟩

def notesText : String := "\x7b\"notes\":\"use ``` fences\"\x7d"

/-- A fence in a string of the data is taken for the start of a block also where there is no block. -/
theorem value?_loses_notes : (Value.ofText? notesText).isSome = true ∧ value? notesText = none := by
  have hnotes : (Value.ofText? notesText).isSome = true := by decide +kernel
  have hlost : (value? notesText).isNone = true := by decide +kernel
  exact ⟨hnotes, Option.isNone_iff_eq_none.mp hlost⟩

end Diorama.Answer
