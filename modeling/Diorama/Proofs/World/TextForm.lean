import Diorama.Proofs.World.Rereading

namespace Diorama.World

open Json

variable {text : String} {v w : World}

lemma ofText?_eq_ok_iff : ofText? text = .ok w ↔ ∃ j, Json.ofText? text = some j ∧ ofJson? j = some w := by
  rw [ofText?]
  split
  · rename_i u hu
    rw [← Option.bind_eq_some_iff, hu]
    exact ⟨fun h => congrArg some (Except.ok.inj h), fun h => congrArg Except.ok (Option.some.inj h)⟩
  · rename_i hnone
    rw [← Option.bind_eq_some_iff, hnone]
    exact ⟨fun h => (nomatch h), fun h => (nomatch h)⟩

lemma depth_of_ofText? (h : ofText? text = .ok w) : (toJson w).depth ≤ 127 := by
  obtain ⟨j, hj, hw⟩ := ofText?_eq_ok_iff.mp h
  have hlevels : levels World ≤ 127 := by decide
  exact (depth_of_ofJson? hw).trans (max_le (Json.depth_of_ofText? hj) hlevels)

lemma ofText?_toText_iff (h : ofText? text = .ok w) :
    ofText? w.toText = .ok v ↔ ofJson? (toJson w).reread = some v := by
  rw [ofText?_eq_ok_iff, toText, ofText?_pretty (wellFormed w) (depth_of_ofText? h)]
  exact ⟨fun ⟨_, hj, hv⟩ => Option.some.inj hj ▸ hv, fun hv => ⟨_, rfl, hv⟩⟩

def reals (w : World) : List Float := (toJson w).reals

def NumbersSurvive (w : World) : Prop :=
  (∀ x ∈ w.scalars, (Json.ofText? (scalarNumeral.scalar x)).bind ofJson? = some x) ∧
    ∀ x ∈ w.reals, Json.ofText? (floatNumeral.float x) = some (.real x)

lemma survives_iff : (toJson w).Survives ↔ w.NumbersSurvive := by
  constructor
  · rintro ⟨hscalars, hreals⟩
    rw [scalars_toJson_world] at hscalars
    exact ⟨fun x hx => by rw [ofText?_scalar, Option.bind_some, hscalars x hx],
      fun x hx => by rw [ofText?_float, hreals x hx]⟩
  · rintro ⟨hscalars, hreals⟩
    rw [← scalars_toJson_world] at hscalars
    refine ⟨fun x hx => ?_, fun x hx => ?_⟩
    · have h := hscalars x hx
      rwa [ofText?_scalar, Option.bind_some] at h
    · exact readBack_of_ofText? (hreals x hx)

lemma ofJson?_reread_iff : ofJson? (toJson w).reread = some w ↔ w.NumbersSurvive := by
  rw [← survives_iff]
  exact ⟨survives_of_ofJson?, fun h => ofJson?_of_renderedAs (renderedAs_reread _ (wellFormed w) h)⟩

/-- A world with finite scalars is read from its own text, and as itself just where its numbers survive. -/
theorem toText_stable_iff (h : ofText? text = .ok w) (hfinite : w.IsFinite) : (∃ v, ofText? w.toText = .ok v) ∧
    (ofText? w.toText = .ok w ∧ (ofText? w.toText).map toText = .ok w.toText ↔ w.NumbersSurvive) := by
  simp only [ofText?_toText_iff h]
  refine ⟨(reopens_iff w).mpr fun x hx => hfinite x (w.needed_subset hx), ?_⟩
  rw [ofJson?_reread_iff]
  refine ⟨And.left, fun hs => ⟨hs, ?_⟩⟩
  rw [(ofText?_toText_iff h).mpr (ofJson?_reread_iff.mpr hs)]
  rfl

lemma exists_of_any {p : World → Bool} (h : (ofText? text).toOption.any p = true) :
    ∃ w, ofText? text = .ok w ∧ p w = true := by
  cases hw : ofText? text with
  | error e =>
    rw [hw] at h
    cases h
  | ok w =>
    rw [hw] at h
    exact ⟨w, rfl, h⟩

lemma ofText?_float_eq {x y : Float} (hx : x.isFinite = true)
    (h : (Json.ofText? (floatNumeral.float x)).map Json.reals = some [y]) :
    Json.ofText? (floatNumeral.float x) = some (.real y) := by
  obtain ⟨z, hz⟩ := exists_readBack_real hx
  rw [ofText?_float, hz] at h ⊢
  obtain rfl := (List.cons.inj (Option.some.inj h)).1
  rfl

def lampText : String :=
  "\x7b\"metadata\":\x7b\"title\":\"Street\"\x7d,\"entities\":[\x7b\"id\":\"lamp\",\"name\":\"Lamp\"," ++
    "\"transform\":\x7b\"position\":[0.1,-0.0,1e30]\x7d,\"metadata\":\x7b\"watts\":0.3\x7d\x7d]," ++
    "\"lights\":[\x7b\"id\":\"glow\",\"name\":\"Glow\",\"range\":1e-45\x7d]\x7d"

theorem toText_stable_lamp : ∃ w, ofText? lampText = .ok w ∧ w.IsFinite ∧ w.reals = [0.3] ∧
    ofText? w.toText = .ok w ∧ (ofText? w.toText).map toText = .ok w.toText := by
  have hlamp : (ofText? lampText).toOption.any (fun w => decide (w.reals = [0.3]) && w.scalars.all fun x =>
      x.isFinite && decide ((Json.ofText? (scalarNumeral.scalar x)).bind ofJson? = some x)) = true := by decide +kernel
  obtain ⟨w, hw, hnumbers⟩ := exists_of_any hlamp
  simp only [Bool.and_eq_true, List.all_eq_true, decide_eq_true_eq] at hnumbers
  obtain ⟨hreals, hscalars⟩ := hnumbers
  have hwatts : Json.ofText? (floatNumeral.float 0.3) = some (.real 0.3) :=
    ofText?_float_eq (by decide +kernel) (by decide +kernel)
  have hsurvive : w.NumbersSurvive := by
    refine ⟨fun x hx => (hscalars x hx).2, ?_⟩
    rw [hreals, List.forall_mem_singleton]
    exact hwatts
  have hfinite : w.IsFinite := fun x hx => (hscalars x hx).1
  exact ⟨w, hw, hfinite, hreals, (toText_stable_iff hw hfinite).2.mpr hsurvive⟩

def faintText : String :=
  "\x7b\"metadata\":\x7b\"title\":\"t\"\x7d,\"entities\":[\x7b\"id\":\"a\",\"name\":\"A\"," ++
    "\"metadata\":\x7b\"x\":1e-25\x7d\x7d]\x7d"

theorem toText_unstable_faint : ∃ w, ofText? faintText = .ok w ∧ w.IsFinite ∧ ofText? w.toText ≠ .ok w := by
  have hfaint : (ofText? faintText).toOption.any
      (fun w => decide (w.reals = [1 / 1e25]) && w.scalars.all Float32.isFinite) = true := by decide +kernel
  obtain ⟨w, hw, hnumbers⟩ := exists_of_any hfaint
  simp only [Bool.and_eq_true, List.all_eq_true, decide_eq_true_eq] at hnumbers
  refine ⟨w, hw, hnumbers.2, fun hread => ?_⟩
  have hsurvive := ofJson?_reread_iff.mp ((ofText?_toText_iff hw).mp hread)
  have hself : Json.ofText? (floatNumeral.float (1 / 1e25)) = some (.real (1 / 1e25)) :=
    hsurvive.2 _ (hnumbers.1 ▸ List.mem_singleton_self _)
  -- The numeral is the shortest one of this number, but the reader takes it for the float next to it.
  have hother : Json.ofText? (floatNumeral.float (1 / 1e25)) = some (.real 1e-25) :=
    ofText?_float_eq (by decide +kernel) (by decide +kernel)
  rw [hself] at hother
  have hne : (1 / 1e25 : Float) ≠ 1e-25 := by decide +kernel
  exact hne (Json.real.inj (Option.some.inj hother))

/-- A world that was read from a text is read from its own text if the scalars that cannot be absent are finite, and
only then. -/
theorem toText_reopens_iff (h : ofText? text = .ok w) :
    (∃ v, ofText? w.toText = .ok v) ↔ ∀ x ∈ w.needed, x.isFinite = true := by
  simp only [ofText?_toText_iff h]
  exact reopens_iff w

def beaconText : String :=
  "\x7b\"metadata\":\x7b\"title\":\"t\"\x7d,\"lights\":[\x7b\"id\":\"l\",\"name\":\"L\",\"range\":1e39\x7d]\x7d"

theorem toText_reopens_beacon : ∃ w, ofText? beaconText = .ok w ∧ ¬ w.IsFinite ∧ ∃ v, ofText? w.toText = .ok v := by
  have hbeacon : (ofText? beaconText).toOption.any
      (fun w => !w.scalars.all Float32.isFinite && w.needed.all Float32.isFinite) = true := by decide +kernel
  obtain ⟨w, hw, hnumbers⟩ := exists_of_any hbeacon
  rw [Bool.and_eq_true, Bool.not_eq_true', List.all_eq_true] at hnumbers
  refine ⟨w, hw, fun hfinite => ?_, (toText_reopens_iff hw).mpr hnumbers.2⟩
  rw [List.all_eq_true.mpr hfinite] at hnumbers
  exact Bool.noConfusion hnumbers.1

def dazzlingText : String :=
  "\x7b\"metadata\":\x7b\"title\":\"t\"\x7d,\"lights\":[\x7b\"id\":\"l\",\"name\":\"L\"," ++
    "\"intensity\":1e39\x7d]\x7d"

theorem toText_closed_dazzling : ∃ w, ofText? dazzlingText = .ok w ∧ ∀ v, ofText? w.toText ≠ .ok v := by
  have hdazzling : (ofText? dazzlingText).toOption.any (fun w => !w.needed.all Float32.isFinite) = true := by
    decide +kernel
  obtain ⟨w, hw, hnumbers⟩ := exists_of_any hdazzling
  refine ⟨w, hw, fun v hv => ?_⟩
  have hneeded : ∀ x ∈ w.needed, Float32.isFinite x = true := (reopens_iff w).mp ⟨v, (ofText?_toText_iff hw).mp hv⟩
  rw [List.all_eq_true.mpr hneeded] at hnumbers
  exact Bool.noConfusion hnumbers

end Diorama.World
