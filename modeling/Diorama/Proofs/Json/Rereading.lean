import Diorama.Json.Printer
import Diorama.Proofs.Decimal.Spelling
import Diorama.Proofs.Json.Rendering

namespace Diorama.Json

open Token

/-! What is left of a document in its text. -/

def readBack (j : Json) : Json := (ofText? j.compact).getD .unreadable

mutual

def reread : Json → Json
  | .null => .null
  | .bool b => .bool b
  | .integer n => .integer n
  | .real x => (Json.real x).readBack
  | .single x => (Json.single x).readBack
  | .string s => .string s
  | .array items => .array (itemsReread items)
  | .object members => .object (membersReread members)
  | .unreadable => .null

def itemsReread : List Json → List Json
  | [] => []
  | item :: rest => item.reread :: itemsReread rest

def membersReread : List (String × Json) → List (String × Json)
  | [] => []
  | (name, item) :: rest => (name, item.reread) :: membersReread rest

end

mutual

def depth : Json → Nat
  | .null => 0
  | .bool _ => 0
  | .integer _ => 0
  | .real _ => 0
  | .single _ => 0
  | .string _ => 0
  | .array items => itemsDepth items + 1
  | .object members => membersDepth members + 1
  | .unreadable => 0

def itemsDepth : List Json → Nat
  | [] => 0
  | item :: rest => max item.depth (itemsDepth rest)

def membersDepth : List (String × Json) → Nat
  | [] => 0
  | (_, item) :: rest => max item.depth (membersDepth rest)

end

lemma itemsReread_eq_map (items : List Json) : itemsReread items = items.map reread := by
  induction items with
  | nil => rfl
  | cons item rest ih => rw [itemsReread, ih, List.map_cons]

lemma membersReread_eq_map (members : List (String × Json)) :
    membersReread members = members.map fun m => (m.1, m.2.reread) := by
  induction members with
  | nil => rfl
  | cons m rest ih => rw [membersReread, ih, List.map_cons]

/-! Reading a part of a text. -/

variable {text middle rest : List Char} {c c' c'' : Cursor} {frames : List Frame} {token : Token} {first : Char}

def Runs (text : List Char) (c : Cursor) (rest : List Char) (c' : Cursor) : Prop :=
  ∃ tokens, Lexed text tokens rest ∧ tokens.foldlM (Cursor.step .json) c = some c'

lemma Runs.trans (h : Runs text c middle c') (h' : Runs middle c' rest c'') : Runs text c rest c'' := by
  obtain ⟨tokens, hlexed, hsteps⟩ := h
  obtain ⟨tokens', hlexed', hsteps'⟩ := h'
  refine ⟨tokens ++ tokens', hlexed.trans hlexed', ?_⟩
  rw [List.foldlM_append, hsteps]
  exact hsteps'

lemma Runs.of_lexed (h : Lexed text [token] rest) (hs : c.step .json token = some c') : Runs text c rest c' := by
  refine ⟨[token], h, ?_⟩
  rw [List.foldlM_cons, hs]
  rfl

lemma runs_token (hfirst : isBlank first = false) (h : first? (first :: text) = some (token, rest))
    (hs : c.step .json token = some c') : Runs (first :: text) c rest c' :=
  .of_lexed (lexed_first hfirst h) hs

lemma runs_newline (k : Nat) (c : Cursor) : Runs ((newline k).toList ++ rest) c rest c := by
  refine ⟨[], ?_, rfl⟩
  refine lexed_blanks fun x hx => ?_
  rw [newline, String.toList_append, List.mem_append] at hx
  rcases hx with hx | hx
  · obtain rfl := List.mem_singleton.mp hx
    rfl
  · rw [String.toList_ofList] at hx
    obtain rfl := List.eq_of_mem_replicate hx
    rfl

lemma Runs.firstItem {value : Json} {frames' : List Frame}
    (h : Runs text (.atValue (.array [] :: frames)) rest (.after value frames')) :
    Runs text (.firstItem frames) rest (.after value frames') := by
  obtain ⟨tokens, hlexed, hsteps⟩ := h
  refine ⟨tokens, hlexed, ?_⟩
  cases tokens with
  | nil => cases hsteps
  | cons token tokens =>
    rw [List.foldlM_cons] at hsteps ⊢
    cases token with
    | closeArray => cases hsteps
    | _ => exact hsteps

lemma endsNumber_newline (k : Nat) (rest : List Char) : EndsNumber ((newline k).toList ++ rest) := by
  intro c hc
  rw [newline, String.toList_append] at hc
  obtain rfl : '\n' = c := Option.some.inj hc
  decide

lemma endsNumber_comma (rest : List Char) : EndsNumber (',' :: rest) := by
  intro c hc
  obtain rfl : ',' = c := Option.some.inj hc
  decide

/-! Numbers. -/

lemma ofText?_of_lexed {text : String} (token : Token) (h : Lexed text.toList [token] []) {j : Json}
    (hs : Cursor.step .json (.atValue []) token = some (.after j [])) : ofText? text = some j := by
  rw [ofText?, spelled?, show lex text.toList = some [token] by rw [h, lex]; rfl]
  simp only [Option.bind_eq_bind, Option.bind_some, ofTokens?, List.foldlM_cons, List.foldlM_nil, hs]
  rfl

lemma readBack_of_ofText? {j j' : Json} (h : ofText? j.compact = some j') : j.readBack = j' := by
  rw [readBack, h, Option.getD_some]

lemma ofText?_numeral {j : Json} {t : NumberText} (ht : t.Proper) (htext : j.compact.toList = t.text) :
    ofText? j.compact = some t.json := by
  refine ofText?_of_lexed (.number t) ?_ rfl
  have hnil : EndsNumber [] := fun c hc => nomatch hc
  have hlexed := lexed_number ht hnil
  rwa [List.append_nil, ← htext] at hlexed

lemma ofText?_missing {j : Json} (hj : j.compact = "null") : ofText? j.compact = some .null := by
  have hfirst : first? ('n' :: ['u', 'l', 'l']) = some (.null, []) := rfl
  have hlexed : Lexed "null".toList [.null] [] := lexed_first rfl hfirst
  rw [hj]
  exact ofText?_of_lexed .null hlexed rfl

lemma runs_null : Runs ("null".toList ++ rest) (.atValue frames) rest (.after .null frames) :=
  runs_token rfl rfl rfl

lemma runs_bool (b : Bool) :
    Runs (((Json.bool b).prettyAt 0).toList ++ rest) (.atValue frames) rest (.after (.bool b) frames) := by
  cases b with
  | true =>
    have hfirst : first? ('t' :: 'r' :: 'u' :: 'e' :: rest) = some (.bool true, rest) := rfl
    exact runs_token rfl hfirst rfl
  | false =>
    have hfirst : first? ('f' :: 'a' :: 'l' :: 's' :: 'e' :: rest) = some (.bool false, rest) := rfl
    exact runs_token rfl hfirst rfl

lemma plain_floatNumeral : floatNumeral.Plain := ⟨rfl, rfl⟩

lemma plain_scalarNumeral : scalarNumeral.Plain := ⟨rfl, rfl⟩

lemma unpacked_of_not_finite {n : NumeralStyle} {format : Float.Model.Format} {x : Float.Model.UnpackedFloat}
    (hmissing : n.missing = "null") (hinfinite : n.infinite = "null") (hnegative : n.negativeInfinite = "null")
    (h : x.isFinite = false) : n.unpacked format x = "null" := by
  cases x with
  | notANumber => exact hmissing
  | infinity sign =>
    cases sign with
    | positive => exact hinfinite
    | negative => exact hnegative
  | _ => cases h

lemma compact_real_of_not_finite {x : Float} (h : x.isFinite = false) : (Json.real x).compact = "null" :=
  unpacked_of_not_finite rfl rfl rfl h

lemma compact_single_of_not_finite {x : Scalar} (h : x.isFinite = false) : (Json.single x).compact = "null" :=
  unpacked_of_not_finite rfl rfl rfl h

lemma runs_unpacked {n : NumeralStyle} (hn : n.Plain) {format : Float.Model.Format} {x : Float.Model.UnpackedFloat}
    {j : Json} (hj : j.compact = n.unpacked format x) (hnull : x.isFinite = false → j.compact = "null")
    (hrest : EndsNumber rest) : Runs (j.compact.toList ++ rest) (.atValue frames) rest (.after j.readBack frames) := by
  cases hx : x.isFinite with
  | true =>
    obtain ⟨t, ht⟩ := NumeralStyle.exists_spelled? n format hx
    have htext : j.compact.toList = t.text := by rw [hj, NumeralStyle.toList_unpacked hn ht]
    rw [readBack_of_ofText? (ofText?_numeral (NumeralStyle.proper_spelled? ht) htext), htext]
    exact .of_lexed (lexed_number (NumeralStyle.proper_spelled? ht) hrest) rfl
  | false =>
    rw [readBack_of_ofText? (ofText?_missing (hnull hx)), hnull hx]
    exact runs_null

lemma runs_real (x : Float) (hrest : EndsNumber rest) :
    Runs ((floatNumeral.float x).toList ++ rest) (.atValue frames) rest (.after (Json.real x).readBack frames) :=
  runs_unpacked (j := .real x) plain_floatNumeral rfl compact_real_of_not_finite hrest

lemma runs_single (x : Scalar) (hrest : EndsNumber rest) :
    Runs ((scalarNumeral.scalar x).toList ++ rest) (.atValue frames) rest (.after (Json.single x).readBack frames) :=
  runs_unpacked (j := .single x) plain_scalarNumeral rfl compact_single_of_not_finite hrest

def integerText (n : Int) : NumberText := ⟨decide (n < 0), digitsOf n.natAbs, none, none⟩

lemma proper_integerText (n : Int) : (integerText n).Proper where
  whole := ⟨digitsOf_ne_nil _, lt_ten_of_mem_digitsOf _⟩
  zero h := by
    rcases Nat.eq_zero_or_pos n.natAbs with hzero | hpos
    · rw [integerText, hzero]
      rfl
    · exact (head?_digitsOf hpos h).elim
  fraction _ h := nomatch h
  exponent _ h := nomatch h

lemma toList_integerText (n : Int) : (toString n).toList = (integerText n).text := by
  rw [Decimal.toList_toString, text_eq, integerText]
  simp

lemma json_integerText {n : Int} (h : inRange n = true) : (integerText n).json = .integer n := by
  rw [inRange, Bool.and_eq_true, decide_eq_true_eq, decide_eq_true_eq] at h
  have hlow : -2 ^ 63 ≤ n := h.1
  have hhigh : n < 2 ^ 64 := h.2
  have habsorb : NumberText.absorb 0 (digitsOf n.natAbs) = (n.natAbs, []) := by
    have hsmall : 0 * 10 ^ (digitsOf n.natAbs).length + magnitude (digitsOf n.natAbs) < UInt64.size := by
      rw [zero_mul, zero_add, magnitude_digitsOf]
      change n.natAbs < 2 ^ 64
      omega
    rw [NumberText.absorb_all _ hsmall, zero_mul, zero_add, magnitude_digitsOf]
  have hwhole : (integerText n).isWhole = true := rfl
  simp only [NumberText.json, hwhole, Bool.not_true, Bool.false_eq_true, if_false,
    show NumberText.absorb 0 (integerText n).whole = (n.natAbs, []) from habsorb]
  by_cases hneg : n < 0
  · have hsign : (integerText n).negative = true := decide_eq_true hneg
    have hmag : (decide (0 < n.natAbs) && decide (Int64.minValue.toInt ≤ -(n.natAbs : Int))) = true := by
      rw [Bool.and_eq_true, decide_eq_true_eq, decide_eq_true_eq]
      refine ⟨by omega, ?_⟩
      change -2 ^ 63 ≤ -(n.natAbs : Int)
      omega
    simp only [hsign, Bool.not_true, Bool.false_eq_true, if_false, hmag, if_true]
    exact congrArg Json.integer (by omega)
  · have hsign : (integerText n).negative = false := decide_eq_false hneg
    simp only [hsign, Bool.not_false, if_true]
    exact congrArg Json.integer (by omega)

lemma runs_integer {n : Int} (h : inRange n = true) (hrest : EndsNumber rest) :
    Runs ((toString n).toList ++ rest) (.atValue frames) rest (.after (.integer n) frames) := by
  rw [toList_integerText]
  refine .of_lexed (lexed_number (proper_integerText n) hrest) ?_
  rw [← json_integerText h]
  rfl

lemma runs_string (s : String) :
    Runs ((quote s).toList ++ rest) (.atValue frames) rest (.after (.string s) frames) := by
  obtain ⟨parts, hparts, hlexed⟩ := lexed_quote s rest
  refine .of_lexed hlexed ?_
  simp only [Cursor.step, Cursor.start, hparts, Option.elim]

/-! Containers. -/

lemma nested_json {container : Json} (h : frames.length < 127) : nested .json frames container = container := if_pos h

lemma ofMembers_named (members : List (String × Json)) :
    ofMembers (members.map fun m => (some m.1, m.2)) = .object members := by
  have hread : ∀ f : Option String × Json → Option (String × Json), (∀ m ∈ members, f (some m.1, m.2) = some m) →
      (members.map fun m => (some m.1, m.2)).mapM f = some members := by
    intro f hf
    rw [mapM_eq_some_iff, List.forall₂_map_left_iff, List.forall₂_same]
    exact hf
  rw [ofMembers, hread _ fun _ _ => rfl]

variable {value : Json} {done : List Json} {members : List (Option String × Json)} {name : Option String}

lemma runs_openArray : Runs ('[' :: text) (.atValue frames) text (.firstItem frames) := runs_token rfl rfl rfl

lemma runs_openObject : Runs ('\x7b' :: text) (.atValue frames) text (.firstName frames) := runs_token rfl rfl rfl

lemma runs_itemComma : Runs (',' :: text) (.after value (.array done :: frames)) text
    (.atValue (.array (value :: done) :: frames)) := runs_token rfl rfl rfl

lemma runs_memberComma : Runs (',' :: text) (.after value (.object members name :: frames)) text
    (.nextName ((name, value) :: members) frames) := runs_token rfl rfl rfl

lemma runs_closeArray (h : frames.length < 127) : Runs (']' :: text) (.after value (.array done :: frames)) text
    (.after (.array (value :: done).reverse) frames) := by
  refine runs_token rfl rfl ?_
  rw [Cursor.step, nested_json h]

lemma runs_closeObject (h : frames.length < 127) : Runs ('\x7d' :: text) (.after value (.object members name :: frames))
    text (.after (ofMembers ((name, value) :: members).reverse) frames) := by
  refine runs_token rfl rfl ?_
  rw [Cursor.step, nested_json h]

lemma runs_colon : Runs (':' :: ' ' :: text) (.colon members name frames) text
    (.atValue (.object members name :: frames)) := by
  have htoken : Runs (':' :: ' ' :: text) (.colon members name frames) (' ' :: text)
      (.atValue (.object members name :: frames)) := runs_token rfl rfl rfl
  exact htoken.trans ⟨[], lexed_blank rfl, rfl⟩

lemma runs_name (s : String)
    (hc : ∀ parts, c.step .json (.string parts) = some (.colon members (Dialect.json.string parts) frames)) :
    Runs ((quote s).toList ++ rest) c rest (.colon members (some s) frames) := by
  obtain ⟨parts, hparts, hlexed⟩ := lexed_quote s rest
  refine .of_lexed hlexed ?_
  rw [hc, hparts]

lemma runs_emptyArray (h : frames.length < 127) :
    Runs ("[]".toList ++ rest) (.atValue frames) rest (.after (.array []) frames) := by
  have hclose : Runs (']' :: rest) (.firstItem frames) rest (.after (.array []) frames) := by
    refine runs_token rfl rfl ?_
    rw [Cursor.step, nested_json h]
  exact runs_openArray.trans hclose

lemma runs_emptyObject (h : frames.length < 127) :
    Runs ("\x7b\x7d".toList ++ rest) (.atValue frames) rest (.after (.object []) frames) := by
  have hclose : Runs ('\x7d' :: rest) (.firstName frames) rest (.after (.object []) frames) := by
    refine runs_token rfl rfl ?_
    rw [Cursor.step, nested_json h]
  exact runs_openObject.trans hclose

mutual

theorem runs_pretty : ∀ (j : Json) (k : Nat) (frames : List Frame) (rest : List Char), j.WellFormed →
    frames.length + j.depth ≤ 127 → EndsNumber rest →
    Runs ((j.prettyAt k).toList ++ rest) (.atValue frames) rest (.after j.reread frames)
  | .null, _, _, _, _, _, _ => runs_null
  | .bool true, _, _, _, _, _, _ => runs_bool true
  | .bool false, _, _, _, _, _, _ => runs_bool false
  | .integer _, _, _, _, hj, _, hrest => runs_integer hj hrest
  | .real x, _, _, _, _, _, hrest => runs_real x hrest
  | .single x, _, _, _, _, _, hrest => runs_single x hrest
  | .string s, _, _, _, _, _, _ => runs_string s
  | .unreadable, _, _, _, hj, _, _ => hj.elim
  | .array [], _, _, _, _, hd, _ => runs_emptyArray hd
  | .array (item :: items), k, frames, rest, hj, hd, _ => by
    -- The frame of the open array counts as one more level for its items.
    have hdepth : frames.length + 1 + itemsDepth (item :: items) ≤ 127 := by
      rw [depth] at hd
      omega
    obtain ⟨last, before, hitems, hall⟩ := runs_prettyItems (item :: items) (k + 1) [] frames
      ((newline k).toList ++ ']' :: rest) (List.cons_ne_nil _ _) hj hdepth (endsNumber_newline k _)
    have hclose : Runs (']' :: rest) (.after last (.array before :: frames)) rest
        (.after (Json.array (item :: items)).reread frames) := by
      have hread : Runs (']' :: rest) (.after last (.array before :: frames)) rest
          (.after (.array (last :: before).reverse) frames) := runs_closeArray (by omega)
      rwa [hall] at hread
    have htext : ((Json.array (item :: items)).prettyAt k).toList ++ rest = '[' :: ((newline (k + 1)).toList ++
        ((prettyItems (k + 1) (item :: items)).toList ++ ((newline k).toList ++ ']' :: rest))) := by
      simp [prettyAt, String.toList_append]
    rw [htext]
    exact runs_openArray.trans <| (runs_newline _ _).trans <| hitems.firstItem.trans <| (runs_newline _ _).trans hclose
  | .object [], _, _, _, _, hd, _ => runs_emptyObject hd
  | .object (member :: members), k, frames, rest, hj, hd, _ => by
    have hdepth : frames.length + 1 + membersDepth (member :: members) ≤ 127 := by
      rw [depth] at hd
      omega
    obtain ⟨name, last, before, hmembers, hall⟩ := runs_prettyMembers (member :: members) (k + 1) (.firstName frames) []
      frames ((newline k).toList ++ '\x7d' :: rest) (List.cons_ne_nil _ _) (fun _ => rfl) hj.2 hdepth
      (endsNumber_newline k _)
    have hclose : Runs ('\x7d' :: rest) (.after last (.object before name :: frames)) rest
        (.after (Json.object (member :: members)).reread frames) := by
      have hread : Runs ('\x7d' :: rest) (.after last (.object before name :: frames)) rest
          (.after (ofMembers ((name, last) :: before).reverse) frames) := runs_closeObject (by omega)
      rwa [hall, List.reverse_nil, List.nil_append, ofMembers_named] at hread
    have htext : ((Json.object (member :: members)).prettyAt k).toList ++ rest = '\x7b' :: ((newline (k + 1)).toList ++
        ((prettyMembers (k + 1) (member :: members)).toList ++ ((newline k).toList ++ '\x7d' :: rest))) := by
      simp [prettyAt, String.toList_append]
    rw [htext]
    exact runs_openObject.trans <| (runs_newline _ _).trans <| hmembers.trans <| (runs_newline _ _).trans hclose

theorem runs_prettyItems : ∀ (items : List Json) (k : Nat) (done : List Json) (frames : List Frame)
    (rest : List Char), items ≠ [] → AllWellFormed items → frames.length + 1 + itemsDepth items ≤ 127 →
    EndsNumber rest → ∃ last before, Runs ((prettyItems k items).toList ++ rest) (.atValue (.array done :: frames)) rest
      (.after last (.array before :: frames)) ∧ (last :: before).reverse = done.reverse ++ itemsReread items
  | [], _, _, _, _, hne, _, _, _ => (hne rfl).elim
  | [item], k, done, frames, rest, _, hj, hd, hrest => by
    have hdepth : (Frame.array done :: frames).length + item.depth ≤ 127 := by
      rw [itemsDepth, itemsDepth] at hd
      rw [List.length_cons]
      omega
    exact ⟨item.reread, done, runs_pretty item k _ rest hj.1 hdepth hrest, List.reverse_cons⟩
  | item :: next :: items, k, done, frames, rest, _, hj, hd, hrest => by
    have hdepth : (Frame.array done :: frames).length + item.depth ≤ 127 := by
      rw [itemsDepth] at hd
      rw [List.length_cons]
      omega
    have hdepths : frames.length + 1 + itemsDepth (next :: items) ≤ 127 := by
      rw [itemsDepth] at hd
      omega
    obtain ⟨last, before, hitems, hall⟩ := runs_prettyItems (next :: items) k (item.reread :: done) frames rest
      (List.cons_ne_nil _ _) hj.2 hdepths hrest
    have hitem := runs_pretty item k (.array done :: frames) (',' :: ((newline k).toList ++
      ((prettyItems k (next :: items)).toList ++ rest))) hj.1 hdepth (endsNumber_comma _)
    have htext : (prettyItems k (item :: next :: items)).toList ++ rest = (item.prettyAt k).toList ++ ',' ::
        ((newline k).toList ++ ((prettyItems k (next :: items)).toList ++ rest)) := by
      simp [prettyItems, String.toList_append]
    refine ⟨last, before, ?_, by rw [hall, List.reverse_cons, List.append_assoc]; rfl⟩
    rw [htext]
    exact hitem.trans <| runs_itemComma.trans <| (runs_newline _ _).trans hitems

theorem runs_prettyMembers : ∀ (members : List (String × Json)) (k : Nat) (c : Cursor)
    (done : List (Option String × Json)) (frames : List Frame) (rest : List Char), members ≠ [] →
    (∀ parts, c.step .json (.string parts) = some (.colon done (Dialect.json.string parts) frames)) →
    MembersWellFormed members → frames.length + 1 + membersDepth members ≤ 127 → EndsNumber rest →
    ∃ name last before, Runs ((prettyMembers k members).toList ++ rest) c rest
      (.after last (.object before name :: frames)) ∧ ((name, last) :: before).reverse =
        done.reverse ++ (membersReread members).map fun m => (some m.1, m.2)
  | [], _, _, _, _, _, hne, _, _, _, _ => (hne rfl).elim
  | [(name, item)], k, c, done, frames, rest, _, hc, hj, hd, hrest => by
    have hdepth : (Frame.object done (some name) :: frames).length + item.depth ≤ 127 := by
      rw [membersDepth, membersDepth] at hd
      rw [List.length_cons]
      omega
    have htext : (prettyMembers k [(name, item)]).toList ++ rest =
        (quote name).toList ++ (':' :: ' ' :: ((item.prettyAt k).toList ++ rest)) := by
      simp [prettyMembers, String.toList_append]
    refine ⟨some name, item.reread, done, ?_, List.reverse_cons⟩
    rw [htext]
    exact (runs_name name hc).trans <| runs_colon.trans <| runs_pretty item k _ rest hj.1 hdepth hrest
  | (name, item) :: next :: members, k, c, done, frames, rest, _, hc, hj, hd, hrest => by
    have hdepth : (Frame.object done (some name) :: frames).length + item.depth ≤ 127 := by
      rw [membersDepth] at hd
      rw [List.length_cons]
      omega
    have hdepths : frames.length + 1 + membersDepth (next :: members) ≤ 127 := by
      rw [membersDepth] at hd
      omega
    obtain ⟨lastName, last, before, hmembers, hall⟩ := runs_prettyMembers (next :: members) k
      (.nextName ((some name, item.reread) :: done) frames) ((some name, item.reread) :: done) frames rest
      (List.cons_ne_nil _ _) (fun _ => rfl) hj.2 hdepths hrest
    have hitem := runs_pretty item k (.object done (some name) :: frames) (',' :: ((newline k).toList ++
      ((prettyMembers k (next :: members)).toList ++ rest))) hj.1 hdepth (endsNumber_comma _)
    have htext : (prettyMembers k ((name, item) :: next :: members)).toList ++ rest =
        (quote name).toList ++ (':' :: ' ' :: ((item.prettyAt k).toList ++ ',' :: ((newline k).toList ++
          ((prettyMembers k (next :: members)).toList ++ rest)))) := by
      simp [prettyMembers, String.toList_append]
    refine ⟨lastName, last, before, ?_, by rw [hall, List.reverse_cons, List.append_assoc]; rfl⟩
    rw [htext]
    exact (runs_name name hc).trans <| runs_colon.trans <| hitem.trans <| runs_memberComma.trans <|
      (runs_newline _ _).trans hmembers

end

/-- The text of a document is read as the document with its numbers read back, if it nests no deeper than text may. -/
theorem ofText?_pretty {j : Json} (hj : j.WellFormed) (hd : j.depth ≤ 127) : ofText? j.pretty = some j.reread := by
  obtain ⟨tokens, hlexed, hsteps⟩ := runs_pretty j 0 [] [] hj (by simpa using hd) fun c hc => nomatch hc
  have htokens : lex j.pretty.toList = some tokens := by
    rw [List.append_nil] at hlexed
    rw [pretty, hlexed, lex]
    simp
  rw [ofText?, spelled?, htokens]
  simp only [Option.bind_eq_bind, Option.bind_some, ofTokens?, hsteps]

end Diorama.Json
