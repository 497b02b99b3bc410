import Diorama.Proofs.Json.Exchange
import Diorama.Proofs.World.Shape

/-! What one more member does to a document that a world is read from. In a record, at whatever depth, a member that is
no field makes the document unreadable. In free-form data it is read as one more entry, and the world is otherwise the
same. -/

namespace Diorama

open Json

lemma Interaction.parameters_slot : form.Slot "parameters" (·.parameters) (fun v i => { i with parameters := v })
    (form.fields.take 3) [] where
  others := rfl
  fields_eq := rfl
  before_free := by decide
  after_free := by decide
  passes _ := by simp
  get_set _ _ := rfl
  set_set _ _ _ := rfl

lemma Mechanism.interactions_slot : form.Slot "interactions" (·.interactions)
    (fun v m => { m with interactions := v }) (form.fields.take 3) (form.fields.drop 4) where
  others := rfl
  fields_eq := rfl
  before_free := by decide
  after_free := by decide
  passes _ := by simp [form, Field.passes_required]
  get_set _ _ := rfl
  set_set _ _ _ := rfl

lemma Mechanism.conditions_slot : form.Slot "conditions" (·.conditions) (fun v m => { m with conditions := v })
    (form.fields.take 6) [] where
  others := rfl
  fields_eq := rfl
  before_free := by decide
  after_free := by decide
  passes _ := by simp
  get_set _ _ := rfl
  set_set _ _ _ := rfl

lemma Entity.metadata_slot : form.Slot "metadata" (·.metadata) (fun v e => { e with metadata := v })
    (form.fields.take 10) (form.fields.drop 11) where
  others := rfl
  fields_eq := rfl
  before_free := by decide
  after_free := by decide
  passes _ := by simp [form, Field.passes_required]
  get_set _ _ := rfl
  set_set _ _ _ := rfl

namespace World

lemma entities_slot : form.Slot "entities" (·.entities) (fun v w => { w with entities := v }) (form.fields.take 2)
    (form.fields.drop 3) where
  others := rfl
  fields_eq := rfl
  before_free := by decide
  after_free := by decide
  passes _ := by simp [form, Field.passes_required]
  get_set _ _ := rfl
  set_set _ _ _ := rfl

lemma mechanisms_slot : form.Slot "systems" (·.mechanisms) (fun v w => { w with mechanisms := v }) (form.fields.take 4)
    (form.fields.drop 5) where
  others := rfl
  fields_eq := rfl
  before_free := by decide
  after_free := by decide
  passes _ := by simp [form, Field.passes_required]
  get_set _ _ := rfl
  set_set _ _ _ := rfl

variable {v : Value} {w : World} {key : String} {members : List (String × Json)}

lemma ofValue?_eq_ok_iff : ofValue? v = .ok w ↔ ofJson? v.json = some w := by
  rw [ofValue?]
  split
  · rename_i u hu
    rw [hu]
    exact ⟨fun h => congrArg some (Except.ok.inj h), fun h => congrArg Except.ok (Option.some.inj h)⟩
  · rename_i hnone
    rw [hnone]
    exact ⟨fun h => (nomatch h), fun h => (nomatch h)⟩

theorem shapedAs_of_ofValue? (h : ofValue? v = .ok w) : v.json.ShapedAs (.record .world) :=
  shapedAs_of_ofJson? (ofValue?_eq_ok_iff.mp h)

lemma ofValue?_stranger {path : Path} {kind : RecordKind}
    (hplace : (Content.record .world).follow? path = some (.record kind))
    (hat : v.json.at? path = some (.object members)) (hkey : key ∉ kind.names) (x : Value) :
    ofValue? (v.withMemberAt path key x) = .error .malformed := by
  cases hread : ofValue? (v.withMemberAt path key x) with
  | error e =>
    rw [ofValue?] at hread
    split at hread
    · cases hread
    · exact hread.symm
  | ok u =>
    -- Were it read, the shape would have a place for the new member.
    have hobject : (v.withMemberAt path key x).json.at? path =
        some (.object (Dictionary.insertEntry key x.json members)) := by
      rw [Value.withMemberAt, at?_changeAt, hat]
      rfl
    obtain ⟨d, hd, hadmits⟩ := shapedAs_of_ofValue? hread path _ hobject
    obtain rfl := Option.some.inj (hplace.symm.trans hd)
    have hdata := isData_of_at? v.isData hat
    rw [isData, Bool.and_eq_true, decide_eq_true_eq] at hdata
    have hmem : (key, x.json) ∈ Dictionary.insertEntry key x.json members :=
      (Dictionary.mem_insertEntry_iff hdata.1).mpr (.inl rfl)
    exact (hkey (hadmits _ hmem)).elim

lemma ofValue?_withMemberAt {path : Path} {item : Json} {d : Dictionary Value} {put : Dictionary Value → World}
    (h : v.json.Exposes path item d put) (hat : v.json.at? path = some item) (key : String) (x : Value) :
    ofValue? (v.withMemberAt path key x) = .ok (put (d.insert key x)) :=
  ofValue?_eq_ok_iff.mpr (h.exchange (ofJson?_withMember (isData_of_at? v.isData hat) h.read key x))

variable {a b c : Step} {i k : Nat}

lemma ofValue?_metadata (h : ofValue? v = .ok w) (ha : a ∈ RecordKind.world.steps "entities")
    (hb : b ∈ RecordKind.entity.steps "metadata") (hat : v.json.at? [a, .item i, b] = some (.object members))
    (key : String) (x : Value) : ∃ e, w.entities[i]? = some e ∧ ofValue? (v.withMemberAt [a, .item i, b] key x) =
      .ok { w with entities := w.entities.set i { e with metadata := e.metadata.insert key x } } := by
  obtain ⟨entity, hentity, hmetadata⟩ := at?_append [a, .item i] _ hat
  obtain ⟨e, he, hitem⟩ := entities_slot.exposes_item (ofValue?_eq_ok_iff.mp h) ha hentity
  have hfield := Entity.metadata_slot.exposes hitem.read hb hmetadata
  exact ⟨e, he, ofValue?_withMemberAt (hitem.trans hfield) hat key x⟩

lemma ofValue?_conditions (h : ofValue? v = .ok w) (ha : a ∈ RecordKind.world.steps "systems")
    (hb : b ∈ RecordKind.mechanism.steps "conditions") (hat : v.json.at? [a, .item i, b] = some (.object members))
    (key : String) (x : Value) : ∃ m, w.mechanisms[i]? = some m ∧ ofValue? (v.withMemberAt [a, .item i, b] key x) =
      .ok { w with mechanisms := w.mechanisms.set i { m with conditions := m.conditions.insert key x } } := by
  obtain ⟨mechanism, hmechanism, hconditions⟩ := at?_append [a, .item i] _ hat
  obtain ⟨m, hm, hitem⟩ := mechanisms_slot.exposes_item (ofValue?_eq_ok_iff.mp h) ha hmechanism
  have hfield := Mechanism.conditions_slot.exposes hitem.read hb hconditions
  exact ⟨m, hm, ofValue?_withMemberAt (hitem.trans hfield) hat key x⟩

lemma ofValue?_parameters (h : ofValue? v = .ok w) (ha : a ∈ RecordKind.world.steps "systems")
    (hb : b ∈ RecordKind.mechanism.steps "interactions") (hc : c ∈ RecordKind.interaction.steps "parameters")
    (hat : v.json.at? [a, .item i, b, .item k, c] = some (.object members)) (key : String) (x : Value) :
    ∃ m t, w.mechanisms[i]? = some m ∧ m.interactions[k]? = some t ∧
      ofValue? (v.withMemberAt [a, .item i, b, .item k, c] key x) = .ok { w with
        mechanisms := w.mechanisms.set i { m with
          interactions := m.interactions.set k { t with parameters := t.parameters.insert key x } } } := by
  obtain ⟨mechanism, hmechanism, hrest⟩ := at?_append [a, .item i] _ hat
  obtain ⟨interaction, hinteraction, hparameters⟩ := at?_append [b, .item k] _ hrest
  obtain ⟨m, hm, hitem⟩ := mechanisms_slot.exposes_item (ofValue?_eq_ok_iff.mp h) ha hmechanism
  obtain ⟨t, ht, hinner⟩ := Mechanism.interactions_slot.exposes_item hitem.read hb hinteraction
  have hfield := Interaction.parameters_slot.exposes hinner.read hc hparameters
  exact ⟨m, t, hm, ht, ofValue?_withMemberAt (hitem.trans (hinner.trans hfield)) hat key x⟩

/-- A document that a world is read from has objects only where its shape has a place for them. With one more member
in a record, which is no field, it is not read, and with one more member in free-form data it is read as the same world
with that entry. -/
theorem ofValue?_strict (h : ofValue? v = .ok w) (key : String) (x : Value) : v.json.ShapedAs (.record .world) ∧
    (∀ path kind members, (Content.record .world).follow? path = some (.record kind) →
      v.json.at? path = some (.object members) → key ∉ kind.names →
        ofValue? (v.withMemberAt path key x) = .error .malformed) ∧
    (∀ a ∈ RecordKind.world.steps "entities", ∀ i, ∀ b ∈ RecordKind.entity.steps "metadata", ∀ members,
      v.json.at? [a, .item i, b] = some (.object members) →
        ∃ e, w.entities[i]? = some e ∧ ofValue? (v.withMemberAt [a, .item i, b] key x) = .ok { w with
          entities := w.entities.set i { e with metadata := e.metadata.insert key x } }) ∧
    (∀ a ∈ RecordKind.world.steps "systems", ∀ i, ∀ b ∈ RecordKind.mechanism.steps "interactions", ∀ k,
      ∀ c ∈ RecordKind.interaction.steps "parameters", ∀ members,
        v.json.at? [a, .item i, b, .item k, c] = some (.object members) →
          ∃ m t, w.mechanisms[i]? = some m ∧ m.interactions[k]? = some t ∧
            ofValue? (v.withMemberAt [a, .item i, b, .item k, c] key x) = .ok { w with
              mechanisms := w.mechanisms.set i { m with
                interactions := m.interactions.set k { t with parameters := t.parameters.insert key x } } }) ∧
    ∀ a ∈ RecordKind.world.steps "systems", ∀ i, ∀ b ∈ RecordKind.mechanism.steps "conditions", ∀ members,
      v.json.at? [a, .item i, b] = some (.object members) →
        ∃ m, w.mechanisms[i]? = some m ∧ ofValue? (v.withMemberAt [a, .item i, b] key x) = .ok { w with
          mechanisms := w.mechanisms.set i { m with conditions := m.conditions.insert key x } } := by
  refine ⟨shapedAs_of_ofValue? h, ?_, ?_, ?_, ?_⟩
  · exact fun path kind members hplace hat hkey => ofValue?_stranger hplace hat hkey x
  · exact fun a ha i b hb members hat => ofValue?_metadata h ha hb hat key x
  · exact fun a ha i b hb k c hc members hat => ofValue?_parameters h ha hb hc hat key x
  · exact fun a ha i b hb members hat => ofValue?_conditions h ha hb hat key x

def streetDocument : Value := ⟨.object [
  ("entities", .array [.object [
    ("id", .string "lamp"), ("metadata", .object [("watts", .integer 60)]), ("name", .string "Lamp")]]),
  ("lights", .array [.array [
    .string "glow", .string "Glow", .string "point",
    .object [("b", .integer 0), ("g", .integer 1), ("r", .integer 1)]]]),
  ("metadata", .object [("title", .string "Street")]),
  ("systems", .array [.object [
    ("id", .string "switch"),
    ("interactions", .array [.object [
      ("action_type", .object [("spawn", .null)]), ("parameters", .object []), ("trigger_type", .string "click")]]),
    ("name", .string "Switch")]])],
  by decide +kernel⟩

theorem ofValue?_strict_street : ∃ w, ofValue? streetDocument = .ok w ∧
    ofValue? (streetDocument.withMemberAt [.member "lights", .item 0, .item 3] "hue" .null) = .error .malformed ∧
    ∃ m t, w.mechanisms[0]? = some m ∧ m.interactions[0]? = some t ∧
      ofValue? (streetDocument.withMemberAt
        [.member "systems", .item 0, .member "interactions", .item 0, .member "parameters"] "hue" .null) = .ok { w with
          mechanisms := w.mechanisms.set 0 { m with
            interactions := m.interactions.set 0 { t with parameters := t.parameters.insert "hue" .null } } } := by
  obtain ⟨w, hw⟩ : ∃ w, ofValue? streetDocument = .ok w := ⟨_, rfl⟩
  obtain ⟨-, hstranger, -, hparameters, -⟩ := ofValue?_strict hw "hue" .null
  refine ⟨w, hw, hstranger _ .color _ rfl rfl (by decide), ?_⟩
  exact hparameters (.member "systems") (by decide) 0 (.member "interactions") (by decide) 0 (.member "parameters")
    (by decide) _ rfl

end World

end Diorama
