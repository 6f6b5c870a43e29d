import AtlasManifests.Mapping.Listing
import AtlasManifests.Proofs.Pruning
import AtlasManifests.Proofs.SortedMaps

/-! # Mapping back and forth

Below its tag a mapper writes the object as far as the schema declares it (`entryMembers`), and
one member for each parameter that it carries (`members`).  If parameters and references can be
told apart (`TellsApart`), these members have different names, so that what stands below the tag is
the sorted list of all of them (`payload_perm`), and reading goes through that list one by one
(`foldlM_readMember`).  With an index that leads back to what was referred to, reading undoes
writing (`fromManifest_toManifest`), and what was read is written as it was
(`toManifest_fromManifest_iff`).

Both hold as long as the content can be seen.  An independent object names a secret beside its
content, and if the tag of the content is the name of that member, then the secret stands in its
place (`HidesPayload`).
-/
namespace AtlasManifests

/-! ## Rules of a registry -/

/-- Among things with different keys, the first with the key of one of them is that one. -/
theorem find?_eq_some_of_nodup {α : Type} {key : α → String} {l : List α}
    (h : (l.map key).Nodup) {a : α} (ha : a ∈ l) : l.find? (key · == key a) = some a := by
  cases hfind : l.find? (key · == key a) with
  | none =>
    have hne := List.find?_eq_none.mp hfind a ha
    simp at hne
  | some b =>
    have heq : key b = key a := beq_iff_eq.mp (List.find?_some hfind :)
    rw [List.inj_on_of_nodup_map h (List.mem_of_find?_eq_some hfind) ha heq]

namespace Registry

variable {r : Registry} {rule : ReferenceRule} {field : String}

theorem mem_of_byId? (h : r.byId? field = some rule) : rule ∈ r.rules ∧ rule.idField = field :=
  ⟨List.mem_of_find?_eq_some h, beq_iff_eq.mp (List.find?_some h :)⟩

theorem byId?_idField (h : (r.rules.map (·.idField)).Nodup) (hrule : rule ∈ r.rules) :
    r.byId? rule.idField = some rule :=
  find?_eq_some_of_nodup h hrule

theorem byRef?_refField (h : (r.rules.map (·.refField)).Nodup) (hrule : rule ∈ r.rules) :
    r.byRef? rule.refField = some rule :=
  find?_eq_some_of_nodup h hrule

theorem byRef?_eq_none (h : ∀ rule ∈ r.rules, field ≠ rule.refField) : r.byRef? field = none :=
  List.find?_eq_none.mpr fun rule hrule heq => h rule hrule (beq_iff_eq.mp heq).symm

end Registry

namespace Mapper

variable {t : Mapper} {ctx : Context} {independent : Bool} {refs : ReferenceIndex}
variable {params : List (String × String)} {field value name : String}

/-! ## What parameters are written as -/

/-- Parameters and references can be told apart by the names that they are written under. -/
structure TellsApart (t : Mapper) (params : List (String × String)) : Prop where
  idFields : (t.registry.rules.map (·.idField)).Nodup
  refFields : (t.registry.rules.map (·.refField)).Nodup
  refFields_ne : ∀ rule ∈ t.registry.rules, rule.refField ≠ entryKey
  names : (params.map (·.1)).Nodup
  names_ne : ∀ param ∈ params, param.1 ≠ entryKey
  names_ne_refField : ∀ param ∈ params, ∀ rule ∈ t.registry.rules, param.1 ≠ rule.refField

/-- Under the usual registry, the id of a group is told apart from the entry and from references. -/
theorem tellsApart_groupId (h : t.registry = .usual) (id : String) :
    t.TellsApart [("groupId", id)] where
  idFields := by rw [h]; decide
  refFields := by rw [h]; decide
  refFields_ne := by rw [h]; decide
  names := by simp
  names_ne := by
    rw [List.forall_mem_singleton]
    show "groupId" ≠ entryKey
    decide
  names_ne_refField := by
    rw [List.forall_mem_singleton, h]
    show ∀ rule ∈ Registry.usual.rules, "groupId" ≠ rule.refField
    decide

/-- A parameter is written if the schema declares it, or else if it declares a reference in its
place and the index knows what to refer to. -/
def carries (t : Mapper) (independent : Bool) (refs : ReferenceIndex) (param : String × String) :
    Bool :=
  (t.tagProperty? param.1).isSome ||
    !independent && t.registry.rules.any fun rule =>
      rule.idField == param.1 && (t.tagProperty? rule.refField).isSome &&
        (refs.nameOf? rule.targetKind param.2).isSome

/-- The members that parameters are written as. -/
def members (t : Mapper) (independent : Bool) (refs : ReferenceIndex)
    (params : List (String × String)) : List (String × Json) :=
  params.filterMap fun param => t.paramMember? independent refs param.1 param.2

/-- The entry as a member, if there is one. -/
def entryMembers (t : Mapper) (source : Json) : List (String × Json) :=
  (t.entryOf? source).toList.map (entryKey, ·)

theorem payload_eq_insertAll (source : Json) :
    t.payload independent refs source params =
      Assoc.insertAll (t.members independent refs params) (t.entryMembers source) := by
  show List.foldl _ (t.entryMembers source) params = _
  generalize t.entryMembers source = start
  induction params generalizing start with
  | nil => rfl
  | cons head rest ih =>
    obtain ⟨field, value⟩ := head
    simp only [List.foldl_cons, members, List.filterMap_cons]
    cases t.paramMember? independent refs field value with
    | none => exact ih start
    | some member => exact ih _

/-- A parameter is written as a reference or as it is. -/
theorem paramMember?_cases {member : String × Json}
    (h : t.paramMember? independent refs field value = some member) :
    (∃ rule ∈ t.registry.rules, rule.idField = field ∧ independent = false ∧
        (t.tagProperty? rule.refField).isSome = true ∧
        ∃ target, refs.nameOf? rule.targetKind value = some target ∧
          member = (rule.refField, referenceJson target)) ∨
      (t.tagProperty? field).isSome = true ∧ member = (field, .str value) := by
  rw [paramMember?] at h
  split at h
  · next found hfound =>
    obtain rfl := Option.some.inj h
    rw [referenceFor?] at hfound
    split at hfound
    · cases hfound
    · obtain ⟨rule, hrule, hfound⟩ := Option.bind_eq_some_iff.mp hfound
      obtain ⟨schema, hschema, hfound⟩ := Option.bind_eq_some_iff.mp hfound
      obtain ⟨target, htarget, hfound⟩ := Option.bind_eq_some_iff.mp hfound
      obtain ⟨hmem, hid⟩ := Registry.mem_of_byId? hrule
      exact .inl ⟨rule, hmem, hid, Bool.eq_false_iff.mpr ‹_›, Option.isSome_of_eq_some hschema,
        target, htarget, (Option.some.inj hfound).symm⟩
  · obtain ⟨schema, hschema, rfl⟩ := Option.map_eq_some_iff.mp h
    exact .inr ⟨Option.isSome_of_eq_some hschema, rfl⟩

theorem isSome_paramMember? (hd : t.TellsApart params) (param : String × String) :
    (t.paramMember? independent refs param.1 param.2).isSome =
      t.carries independent refs param := by
  rw [Bool.eq_iff_iff, carries, Bool.or_eq_true, Bool.and_eq_true, Bool.not_eq_true',
    List.any_eq_true]
  constructor
  · intro h
    obtain ⟨member, hmember⟩ := Option.isSome_iff_exists.mp h
    rcases paramMember?_cases hmember with ⟨rule, hrule, hid, hmode, hschema, target, htarget, _⟩ |
      ⟨hschema, _⟩
    · refine .inr ⟨hmode, rule, hrule, ?_⟩
      simp [hid, hschema, htarget]
    · exact .inl hschema
  · intro h
    rw [paramMember?]
    cases hreference : t.referenceFor? independent refs param.1 param.2 with
    | some member => rfl
    | none =>
      rcases h with h | ⟨hmode, rule, hrule, h⟩
      · simpa using h
      · -- the rule for the parameter gives a reference
        simp only [Bool.and_eq_true, beq_iff_eq, Option.isSome_iff_exists] at h
        obtain ⟨⟨hid, schema, hschema⟩, target, htarget⟩ := h
        have hfind := Registry.byId?_idField hd.idFields hrule
        rw [hid] at hfind
        simp [referenceFor?, hmode, hfind, hschema, htarget] at hreference

/-- No parameter is written where the entry is. -/
theorem entryKey_not_mem_keys (hd : t.TellsApart params) :
    entryKey ∉ (t.members independent refs params).map (·.1) := by
  intro hmem
  obtain ⟨member, hmember, heq⟩ := List.mem_map.mp hmem
  obtain ⟨param, hparam, hmember⟩ := List.mem_filterMap.mp hmember
  rcases paramMember?_cases hmember with ⟨rule, hrule, _, _, _, _, _, rfl⟩ | ⟨_, rfl⟩
  · exact hd.refFields_ne rule hrule heq
  · exact hd.names_ne param hparam heq

/-- No two parameters are written under one name. -/
theorem members_keys_nodup (hd : t.TellsApart params) :
    ((t.members independent refs params).map (·.1)).Nodup := by
  rw [List.Nodup, List.pairwise_map, members, List.pairwise_filterMap]
  refine List.Pairwise.imp_of_mem ?_ (List.pairwise_map.mp hd.names)
  intro a b ha hb hne ma hma mb hmb heq
  rcases paramMember?_cases hma with ⟨rule, hrule, hid, _, _, _, _, rfl⟩ | ⟨_, rfl⟩ <;>
    rcases paramMember?_cases hmb with ⟨rule', hrule', hid', _, _, _, _, rfl⟩ | ⟨_, rfl⟩
  · -- one reference field belongs to one id field
    obtain rfl := List.inj_on_of_nodup_map hd.refFields hrule hrule' heq
    exact hne (hid.symm.trans hid')
  · exact hd.names_ne_refField b hb rule hrule heq.symm
  · exact hd.names_ne_refField a ha rule' hrule' heq
  · exact hne heq

theorem keys_nodup (hd : t.TellsApart params) (source : Json) :
    ((t.members independent refs params ++ t.entryMembers source).map (·.1)).Nodup := by
  rw [List.map_append, List.nodup_append]
  refine ⟨members_keys_nodup hd, ?_, ?_⟩
  · rw [entryMembers]
    cases t.entryOf? source <;> simp
  · intro key hkey entry hentry heq
    obtain ⟨start, hstart, rfl⟩ := List.mem_map.mp hentry
    obtain ⟨_, _, rfl⟩ := List.mem_map.mp hstart
    exact entryKey_not_mem_keys hd (heq ▸ hkey)

/-! ## What members are read as -/

/-- The parameter that a member beside the entry stands for. -/
def readParam? (t : Mapper) (refs : ReferenceIndex) (member : String × Json) :
    Option (String × String) :=
  if member.1 = entryKey then none
  else
    match t.registry.byRef? member.1 with
    | some rule =>
      let target := ((member.2.get? "name").bind Json.text?).getD ""
      (refs.idOf? rule.targetKind target).map (rule.idField, ·)
    | none => member.2.text?.map (member.1, ·)

theorem readParam?_entry (entry : Json) : t.readParam? refs (entryKey, entry) = none := if_pos rfl

theorem readParam?_reference (hd : t.TellsApart params) {rule : ReferenceRule}
    (hrule : rule ∈ t.registry.rules) (target : String) :
    t.readParam? refs (rule.refField, referenceJson target) =
      (refs.idOf? rule.targetKind target).map (rule.idField, ·) := by
  rw [readParam?, if_neg (hd.refFields_ne rule hrule),
    Registry.byRef?_refField hd.refFields hrule]
  rfl

theorem readParam?_value (hd : t.TellsApart params) {param : String × String}
    (hparam : param ∈ params) : t.readParam? refs (param.1, .str param.2) = some param := by
  rw [readParam?, if_neg (hd.names_ne param hparam),
    Registry.byRef?_eq_none (hd.names_ne_refField param hparam)]
  rfl

theorem readMember_of_readParam? {member : String × Json} {found : String × String}
    (h : t.readParam? refs member = some found) (object : SourceObject) :
    t.readMember refs name object member =
      .ok { object with pathParams := Assoc.insert found.1 found.2 object.pathParams } := by
  obtain ⟨key, json⟩ := member
  rw [readParam?] at h
  split at h
  · cases h
  · next hkey =>
    simp only [readMember, if_neg hkey]
    cases hrule : t.registry.byRef? key with
    | some rule =>
      simp only [hrule] at h
      obtain ⟨id, hid, rfl⟩ := Option.map_eq_some_iff.mp h
      simp only [hid]
    | none =>
      simp only [hrule] at h
      obtain ⟨text, htext, rfl⟩ := Option.map_eq_some_iff.mp h
      simp only [htext]

/-- Members that all can be read yield the entry among them and the parameters of the others. -/
theorem foldlM_readMember {ms : List (String × Json)} (hkeys : (ms.map (·.1)).Nodup)
    (hread : ∀ m ∈ ms, m.1 = entryKey ∨ (t.readParam? refs m).isSome = true)
    (object : SourceObject) :
    ms.foldlM (t.readMember refs name) object =
      .ok ⟨(ms.lookup entryKey).getD object.entry,
        Assoc.insertAll (ms.filterMap (t.readParam? refs)) object.pathParams⟩ := by
  induction ms generalizing object with
  | nil => rfl
  | cons head rest ih =>
    obtain ⟨key, json⟩ := head
    obtain ⟨hnew, hrest⟩ := List.nodup_cons.mp hkeys
    have ih := ih hrest fun m hm => hread m (List.mem_cons_of_mem _ hm)
    rw [List.foldlM_cons, Assoc.lookup_cons, List.filterMap_cons]
    by_cases hkey : key = entryKey
    · -- the entry is nowhere else
      subst hkey
      have hnone : rest.lookup entryKey = none := by
        rw [List.lookup_eq_none_iff]
        intro m hm
        exact bne_iff_ne.mpr fun heq => hnew (List.mem_map.mpr ⟨m, hm, heq.symm⟩)
      have hhead : t.readMember refs name object (entryKey, json) =
          .ok { object with entry := json } := by simp only [readMember, if_true]
      rw [hhead, readParam?_entry, if_pos rfl]
      refine (ih _).trans ?_
      rw [hnone]
      rfl
    · obtain ⟨found, hfound⟩ := Option.isSome_iff_exists.mp
        ((hread _ List.mem_cons_self).resolve_left hkey)
      rw [readMember_of_readParam? hfound, hfound, if_neg (Ne.symm hkey)]
      exact ih _

/-! ## What stands below the tag -/

/-- The secret that gives access is written where the content of objects is: the tag has its
name. -/
def HidesPayload (t : Mapper) (ctx : Context) : Prop :=
  ctx.independent = true ∧ (t.specProperty? secretKey).isSome = true ∧ t.tag = secretKey

theorem lookup_specMembers_tag (h : ¬ t.HidesPayload ctx) (payload : List (String × Json)) :
    (t.specMembers ctx payload).lookup t.tag = some (.obj payload) := by
  rw [specMembers]
  split
  · next hsecret =>
    obtain ⟨hmode, hschema⟩ := Bool.and_eq_true_iff.mp hsecret
    rw [Assoc.lookup_insert, if_neg fun htag => h ⟨hmode, hschema, htag⟩, Assoc.lookup_cons,
      if_pos rfl]
  · rw [Assoc.lookup_cons, if_pos rfl]

theorem payloadOf?_toManifest (h : ¬ t.HidesPayload ctx) (source : Json) :
    t.payloadOf? (t.toManifest ctx name source params refs) =
      some (t.payload ctx.independent refs source params) := by
  show ((t.specMembers ctx _).lookup t.tag).bind Json.members? = _
  rw [lookup_specMembers_tag h]
  rfl

theorem specMembers_of_hidesPayload (h : t.HidesPayload ctx) (payload : List (String × Json)) :
    t.specMembers ctx payload = [(secretKey, referenceJson ctx.credentialsSecretName)] := by
  obtain ⟨hmode, hschema, htag⟩ := h
  rw [specMembers, hmode, hschema, htag]
  rfl

theorem toManifest_congr {source source' : Json} {params params' : List (String × String)}
    (h : t.specMembers ctx (t.payload ctx.independent refs source params) =
      t.specMembers ctx (t.payload ctx.independent refs source' params')) (name : String) :
    t.toManifest ctx name source params refs = t.toManifest ctx name source' params' refs := by
  rw [toManifest, toManifest, h]

/-! ## Reading what was written -/

theorem payload_perm (hd : t.TellsApart params) (source : Json) :
    (t.payload independent refs source params).Perm
      (t.members independent refs params ++ t.entryMembers source) := by
  rw [payload_eq_insertAll]
  exact Assoc.insertAll_perm (keys_nodup hd source)

theorem lookup_entryMembers (source : Json) :
    (t.entryMembers source).lookup entryKey = t.entryOf? source := by
  rw [entryMembers]
  cases t.entryOf? source with
  | none => rfl
  | some entry => rw [Option.toList_some, List.map_singleton, Assoc.lookup_cons, if_pos rfl]

/-- The entry stays as it is if nothing is written in its place. -/
theorem lookup_payload_entryKey
    (h : entryKey ∉ (t.members independent refs params).map (·.1)) (source : Json) :
    (t.payload independent refs source params).lookup entryKey = t.entryOf? source := by
  rw [payload_eq_insertAll, Assoc.lookup_insertAll_of_not_mem h, lookup_entryMembers]

theorem lookup_payload (hd : t.TellsApart params) (source : Json) :
    (t.payload independent refs source params).lookup entryKey = t.entryOf? source :=
  lookup_payload_entryKey (entryKey_not_mem_keys hd) source

theorem filterMap_readParam?_entryMembers (source : Json) :
    (t.entryMembers source).filterMap (t.readParam? refs) = [] := by
  rw [entryMembers]
  cases t.entryOf? source with
  | none => rfl
  | some entry => simp [readParam?_entry]

/-- Each parameter is read under its own name, whatever its value. -/
theorem nodup_filterMap_readParam? (hd : t.TellsApart params)
    (hread : ∀ param ∈ params, ∀ member,
      t.paramMember? independent refs param.1 param.2 = some member →
        ∃ value, t.readParam? refs member = some (param.1, value)) :
    (((t.members independent refs params).filterMap (t.readParam? refs)).map (·.1)).Nodup := by
  rw [members, List.filterMap_filterMap, List.Nodup, List.pairwise_map, List.pairwise_filterMap]
  refine List.Pairwise.imp_of_mem ?_ (List.pairwise_map.mp hd.names)
  intro a b ha hb hne found hfound found' hfound'
  obtain ⟨ma, hma, hfound⟩ := Option.bind_eq_some_iff.mp hfound
  obtain ⟨mb, hmb, hfound'⟩ := Option.bind_eq_some_iff.mp hfound'
  obtain ⟨va, hva⟩ := hread a ha ma hma
  obtain ⟨vb, hvb⟩ := hread b hb mb hmb
  obtain rfl := Option.some.inj (hva.symm.trans hfound)
  obtain rfl := Option.some.inj (hvb.symm.trans hfound')
  exact hne

/-- Content that is shown is read back: the entry, and a value for each parameter that is written.
-/
theorem fromManifest_eq (hd : t.TellsApart params) (hshown : ¬ t.HidesPayload ctx)
    (hread : ∀ param ∈ params, ∀ member,
      t.paramMember? ctx.independent refs param.1 param.2 = some member →
        ∃ value, t.readParam? refs member = some (param.1, value))
    (source : Json) :
    t.fromManifest (t.toManifest ctx name source params refs) refs =
      .ok ⟨(t.entryOf? source).getD .empty,
        Assoc.ofList ((t.members ctx.independent refs params).filterMap (t.readParam? refs))⟩ := by
  have hperm : (t.payload ctx.independent refs source params).Perm
      (t.members ctx.independent refs params ++ t.entryMembers source) := payload_perm hd source
  have hkeys : ((t.payload ctx.independent refs source params).map (·.1)).Nodup :=
    (hperm.map (·.1)).nodup_iff.mpr (keys_nodup hd source)
  -- below the tag there is nothing but the entry and what parameters were written as
  have hall : ∀ m ∈ t.payload ctx.independent refs source params,
      m.1 = entryKey ∨ (t.readParam? refs m).isSome = true := by
    intro m hm
    rcases List.mem_append.mp (hperm.mem_iff.mp hm) with hm | hm
    · obtain ⟨param, hparam, hm⟩ := List.mem_filterMap.mp hm
      obtain ⟨value, hvalue⟩ := hread param hparam m hm
      exact .inr (Option.isSome_of_eq_some hvalue)
    · obtain ⟨_, _, rfl⟩ := List.mem_map.mp hm
      exact .inl rfl
  have hfound : ((t.payload ctx.independent refs source params).filterMap (t.readParam? refs)).Perm
      ((t.members ctx.independent refs params).filterMap (t.readParam? refs)) := by
    have h := hperm.filterMap (t.readParam? refs)
    rwa [List.filterMap_append, filterMap_readParam?_entryMembers, List.append_nil] at h
  simp only [fromManifest, payloadOf?_toManifest hshown]
  rw [foldlM_readMember hkeys hall, lookup_payload hd, Assoc.ofList_eq_insertAll]
  refine congrArg (fun found => Except.ok (SourceObject.mk _ found)) ?_
  refine Assoc.insertAll_congr Assoc.isSorted_nil hfound ?_
  rw [List.append_nil]
  exact (hfound.map (·.1)).nodup_iff.mpr (nodup_filterMap_readParam? hd hread)

/-! ## Indexes that lead back -/

/-- What an index refers to for the values of parameters, it finds again by name. -/
def LeadsBack (t : Mapper) (refs : ReferenceIndex) (params : List (String × String)) : Prop :=
  ∀ param ∈ params, ∀ rule ∈ t.registry.rules, ∀ name,
    refs.nameOf? rule.targetKind param.2 = some name →
      refs.idOf? rule.targetKind name = some param.2

theorem readParam?_of_paramMember? (hd : t.TellsApart params) (hindex : t.LeadsBack refs params)
    {param : String × String} (hparam : param ∈ params) {member : String × Json}
    (h : t.paramMember? independent refs param.1 param.2 = some member) :
    t.readParam? refs member = some param := by
  rcases paramMember?_cases h with ⟨rule, hrule, hid, _, _, target, htarget, rfl⟩ | ⟨_, rfl⟩
  · rw [readParam?_reference hd hrule, hindex param hparam rule hrule target htarget, hid]
    rfl
  · exact readParam?_value hd hparam

/-- What is read back are the parameters that were written. -/
theorem filterMap_readParam?_members (hd : t.TellsApart params)
    (hindex : t.LeadsBack refs params) :
    (t.members independent refs params).filterMap (t.readParam? refs) =
      params.filter (t.carries independent refs) := by
  rw [members, List.filterMap_filterMap, ← List.filterMap_eq_filter]
  refine List.filterMap_congr fun param hparam => ?_
  have hsome : (t.paramMember? independent refs param.1 param.2).isSome =
      t.carries independent refs param := isSome_paramMember? hd param
  cases hmember : t.paramMember? independent refs param.1 param.2 with
  | none =>
    rw [hmember] at hsome
    rw [Option.bind_none, Option.guard, ← hsome]
    rfl
  | some member =>
    rw [hmember] at hsome
    rw [Option.bind_some, readParam?_of_paramMember? hd hindex hparam hmember, Option.guard,
      ← hsome]
    rfl

theorem fromManifest_of_leadsBack (hd : t.TellsApart params) (hindex : t.LeadsBack refs params)
    (hshown : ¬ t.HidesPayload ctx) (source : Json) :
    t.fromManifest (t.toManifest ctx name source params refs) refs =
      .ok ⟨(t.entryOf? source).getD .empty,
        Assoc.ofList (params.filter (t.carries ctx.independent refs))⟩ := by
  rw [fromManifest_eq hd hshown, filterMap_readParam?_members hd hindex]
  intro param hparam member hmember
  exact ⟨param.2, readParam?_of_paramMember? hd hindex hparam hmember⟩

/-- **What is written can be read back**: the object as far as the schema declares it, and the
parameters that are carried with their values, unless the secret that gives access is written in
place of the content.  Then all objects with a name are written alike. -/
theorem fromManifest_toManifest (hd : t.TellsApart params) (hindex : t.LeadsBack refs params)
    (source : Json) :
    (¬ t.HidesPayload ctx →
      t.fromManifest (t.toManifest ctx name source params refs) refs =
        .ok ⟨(t.entryOf? source).getD .empty,
          Assoc.ofList (params.filter (t.carries ctx.independent refs))⟩) ∧
    (t.HidesPayload ctx → ∀ source' params',
      t.toManifest ctx name source' params' refs = t.toManifest ctx name source params refs) := by
  refine ⟨fun hshown => fromManifest_of_leadsBack hd hindex hshown source, ?_⟩
  intro hhides source' params'
  refine toManifest_congr ?_ name
  rw [specMembers_of_hidesPayload hhides, specMembers_of_hidesPayload hhides]

/-- A cluster of the project `Shop` as its control plane has it. -/
def ordersJson : Json := .obj [("name", .str "Orders"), ("stateName", .str "IDLE")]

/-- The context of the project `Shop`. -/
def shopContext (independent : Bool) : Context :=
  ⟨"atlas", "1", "Shop", "2.10.0", independent, false⟩

/-- The index with the group of the project `Shop`. -/
def shopIndex : ReferenceIndex := .insert .empty "Group" "1" "shop"

theorem leadsBack_shopIndex (h : t.registry = .usual) :
    t.LeadsBack shopIndex [("groupId", "1")] := by
  rw [LeadsBack, List.forall_mem_singleton, h]
  intro rule hrule target htarget
  obtain rfl := List.mem_singleton.mp hrule
  obtain rfl : "shop" = target := Option.some.inj htarget
  rfl

/-- A cluster that refers to its group, by the embedded definitions. -/
theorem fromManifest_toManifest_orders :
    ∃ t, Catalogue.embedded.mapper .usual .cluster "2.10.0" "v20250312" = .ok t ∧
      t.TellsApart [("groupId", "1")] ∧ t.LeadsBack shopIndex [("groupId", "1")] ∧
      ¬ t.HidesPayload (shopContext false) ∧
      t.fromManifest (t.toManifest (shopContext false) "shop-orders" ordersJson [("groupId", "1")]
        shopIndex) shopIndex = .ok ⟨(t.entryOf? ordersJson).getD .empty, [("groupId", "1")]⟩ ∧
      ((t.entryOf? ordersJson).bind (·.get? "name")).bind Json.text? = some "Orders" := by
  obtain ⟨t, ht, hp⟩ := exists_of_any
    (x := Catalogue.embedded.mapper .usual .cluster "2.10.0" "v20250312")
    (p := fun t => decide (t.registry.rules = Registry.usual.rules) &&
      t.carries false shopIndex ("groupId", "1") &&
      decide (((t.entryOf? ordersJson).bind (·.get? "name")).bind Json.text? = some "Orders"))
    (by decide +kernel)
  simp only [Bool.and_eq_true, decide_eq_true_eq] at hp
  obtain ⟨⟨hrules, hcarries⟩, hname⟩ := hp
  have hregistry : t.registry = .usual := congrArg Registry.mk hrules
  have hshown : ¬ t.HidesPayload (shopContext false) := fun h => absurd h.1 Bool.false_ne_true
  have hd := tellsApart_groupId hregistry "1"
  have hindex := leadsBack_shopIndex hregistry
  have hkept : [("groupId", "1")].filter (t.carries false shopIndex) = [("groupId", "1")] := by
    rw [List.filter_cons_of_pos hcarries, List.filter_nil]
  refine ⟨t, ht, hd, hindex, hshown, ?_, hname⟩
  refine ((fromManifest_toManifest hd hindex ordersJson).1 hshown).trans ?_
  rw [show (shopContext false).independent = false from rfl, hkept]
  rfl

/-- A definition of clusters whose content stands under the tag `connectionSecretRef`. -/
def taggedClusters : Definition :=
  Embedded.definition "Cluster" "clusters" "cluster" "2.10.0"
    [Definition.version none "v1" true
      (.record [Schema.may "spec" (.record [Schema.may secretKey Embedded.cluster])])]

/-- Of an independent cluster by such a definition neither the name nor the group is read back, but
the name of the secret as if it were a parameter. -/
theorem fromManifest_toManifest_tagged :
    ∃ t, make .usual (some taggedClusters) secretKey = .ok t ∧
      t.TellsApart [("groupId", "1")] ∧ t.LeadsBack shopIndex [("groupId", "1")] ∧
      ∃ s, t.fromManifest (t.toManifest (shopContext true) "shop-orders" ordersJson
          [("groupId", "1")] shopIndex) shopIndex = .ok s ∧
        s.entry ≠ (t.entryOf? ordersJson).getD .empty ∧
        s.pathParams ≠ Assoc.ofList ([("groupId", "1")].filter (t.carries true shopIndex)) := by
  obtain ⟨t, ht, hp⟩ := exists_of_any (x := make .usual (some taggedClusters) secretKey)
    (p := fun t => decide (t.registry.rules = Registry.usual.rules) &&
      ((t.entryOf? ordersJson).getD .empty |>.get? "name").isSome &&
      decide (Assoc.ofList ([("groupId", "1")].filter (t.carries true shopIndex)) =
        [("groupId", "1")]) &&
      (t.fromManifest (t.toManifest (shopContext true) "shop-orders" ordersJson [("groupId", "1")]
        shopIndex) shopIndex).toOption.any fun (s : SourceObject) =>
          (s.entry.get? "name").isNone && decide (s.pathParams = [("name", "shop-credentials")]))
    (by decide +kernel)
  simp only [Bool.and_eq_true, decide_eq_true_eq] at hp
  obtain ⟨⟨⟨hrules, hentry⟩, hkept⟩, hread⟩ := hp
  obtain ⟨s, hs, hp⟩ := exists_of_any hread
  rw [Bool.and_eq_true, decide_eq_true_eq] at hp
  have hregistry : t.registry = .usual := congrArg Registry.mk hrules
  refine ⟨t, ht, tellsApart_groupId hregistry "1", leadsBack_shopIndex hregistry, s, hs, ?_, ?_⟩
  · intro heq
    rw [← heq, Option.isSome_iff_ne_none] at hentry
    exact hentry (Option.isNone_iff_eq_none.mp hp.1)
  · rw [hkept, hp.2]
    decide

/-! ## Writing what was read -/

theorem entryMembers_getD (ms : List (String × Json)) :
    t.entryMembers ((t.entryOf? (.obj ms)).getD .empty) = t.entryMembers (.obj ms) := by
  have hentry : t.entryOf? ((t.entryOf? (.obj ms)).getD .empty) = t.entryOf? (.obj ms) := by
    rw [entryOf?, entryOf?]
    cases t.tagProperty? entryKey with
    | none => rfl
    | some schema => exact Schema.prune_obj_getD schema ms
  rw [entryMembers, hentry, entryMembers]

theorem members_filter_carries (hd : t.TellsApart params) :
    t.members independent refs (params.filter (t.carries independent refs)) =
      t.members independent refs params := by
  rw [members, members, List.filterMap_filter]
  refine List.filterMap_congr fun param _ => ?_
  have hsome : (t.paramMember? independent refs param.1 param.2).isSome =
      t.carries independent refs param := isSome_paramMember? hd param
  cases hcarries : t.carries independent refs param with
  | true => rfl
  | false =>
    have hnone : t.paramMember? independent refs param.1 param.2 = none := by
      simpa [hcarries] using hsome
    rw [hnone]
    rfl

/-- Of an object, what is read back is written as the same content. -/
theorem payload_of_read (hd : t.TellsApart params) (ms : List (String × Json)) :
    t.payload independent refs ((t.entryOf? (.obj ms)).getD .empty)
        (Assoc.ofList (params.filter (t.carries independent refs))) =
      t.payload independent refs (.obj ms) params := by
  -- the parameters come back in another order, which does not matter to what is written
  have hnames : ((params.filter (t.carries independent refs)).map (·.1)).Nodup :=
    hd.names.sublist (List.filter_sublist.map _)
  have hperm : (t.members independent refs
      (Assoc.ofList (params.filter (t.carries independent refs)))).Perm
        (t.members independent refs params) := by
    rw [← members_filter_carries hd]
    exact (Assoc.ofList_perm hnames).filterMap _
  have hstart : Assoc.IsSorted (t.entryMembers (.obj ms)) := by
    rw [entryMembers]
    cases t.entryOf? (.obj ms) with
    | none => exact Assoc.isSorted_nil
    | some entry => exact Assoc.isSorted_singleton _
  rw [payload_eq_insertAll, payload_eq_insertAll, entryMembers_getD]
  exact (Assoc.insertAll_congr hstart hperm.symm (keys_nodup hd _)).symm

/-- A manifest that hides its content holds the name of the secret there, which can be read unless
it is taken for a reference to something that the index does not know. -/
theorem fromManifest_of_hidesPayload (h : t.HidesPayload ctx) (source : Json) :
    (∃ s, t.fromManifest (t.toManifest ctx name source params refs) refs = .ok s) ↔
      ∀ rule, t.registry.byRef? "name" = some rule →
        (refs.idOf? rule.targetKind "").isSome = true := by
  have hpayload : t.payloadOf? (t.toManifest ctx name source params refs) =
      some [("name", .str ctx.credentialsSecretName)] := by
    show ((Json.obj (t.specMembers ctx _)).get? t.tag).bind Json.members? = _
    rw [specMembers_of_hidesPayload h, h.2.2, Json.get?, Assoc.lookup_cons, if_pos rfl]
    rfl
  have hkey : "name" ≠ entryKey := by decide
  simp only [fromManifest, hpayload, List.foldlM_cons, List.foldlM_nil, bind_pure, readMember,
    if_neg hkey]
  cases hrule : t.registry.byRef? "name" with
  | none => simp [Json.text?]
  | some rule =>
    -- a text has no name in it, so the reference is to the empty name
    have htarget : (((Json.str ctx.credentialsSecretName).get? "name").bind Json.text?).getD "" =
        "" := rfl
    simp only [htarget]
    cases hid : refs.idOf? rule.targetKind "" with
    | none => simp [hid]
    | some id => simp [hid]

/-- **What was read is written as it was**: an object that is mapped, read back and mapped again
gives the manifest that it gave, unless its content is hidden by a text that cannot be read. -/
theorem toManifest_fromManifest_iff (hd : t.TellsApart params) (hindex : t.LeadsBack refs params)
    (ms : List (String × Json)) :
    (∃ s, t.fromManifest (t.toManifest ctx name (.obj ms) params refs) refs = .ok s ∧
        t.toManifest ctx name s.entry s.pathParams refs =
          t.toManifest ctx name (.obj ms) params refs) ↔
      (t.HidesPayload ctx → ∀ rule, t.registry.byRef? "name" = some rule →
        (refs.idOf? rule.targetKind "").isSome = true) := by
  by_cases hhides : t.HidesPayload ctx
  · rw [← fromManifest_of_hidesPayload hhides (.obj ms)]
    constructor
    · rintro ⟨s, hs, _⟩ _
      exact ⟨s, hs⟩
    · intro h
      obtain ⟨s, hs⟩ := h hhides
      refine ⟨s, hs, toManifest_congr ?_ name⟩
      rw [specMembers_of_hidesPayload hhides, specMembers_of_hidesPayload hhides]
  · refine iff_of_true ⟨_, fromManifest_of_leadsBack hd hindex hhides (.obj ms), ?_⟩
      fun hhides' => absurd hhides' hhides
    exact toManifest_congr (congrArg (t.specMembers ctx) (payload_of_read hd ms)) name

/-- A cluster that refers to its group is written as it was, by the embedded definitions. -/
theorem toManifest_fromManifest_orders :
    ∃ t, Catalogue.embedded.mapper .usual .cluster "2.10.0" "v20250312" = .ok t ∧
      t.TellsApart [("groupId", "1")] ∧ t.LeadsBack shopIndex [("groupId", "1")] ∧
      ∃ s, t.fromManifest (t.toManifest (shopContext false) "shop-orders" ordersJson
          [("groupId", "1")] shopIndex) shopIndex = .ok s ∧
        t.toManifest (shopContext false) "shop-orders" s.entry s.pathParams shopIndex =
          t.toManifest (shopContext false) "shop-orders" ordersJson [("groupId", "1")]
            shopIndex := by
  obtain ⟨t, ht, hrules⟩ := exists_of_any
    (x := Catalogue.embedded.mapper .usual .cluster "2.10.0" "v20250312")
    (p := fun t => decide (t.registry.rules = Registry.usual.rules)) (by decide +kernel)
  have hregistry : t.registry = .usual := congrArg Registry.mk (of_decide_eq_true hrules)
  have hd := tellsApart_groupId hregistry "1"
  have hindex := leadsBack_shopIndex hregistry
  refine ⟨t, ht, hd, hindex, (toManifest_fromManifest_iff hd hindex _).mpr ?_⟩
  exact fun hhides => absurd hhides.1 Bool.false_ne_true

/-- A registry under which the member `name` refers to an owner. -/
def ownerRegistry : Registry := ⟨[⟨"ownerId", "name", "Owner"⟩]⟩

/-- Of an independent cluster under the tag `connectionSecretRef`, nothing is read back where names
refer to owners: the name of the secret is taken for an owner that nobody knows. -/
theorem toManifest_fromManifest_tagged :
    ∃ t, make ownerRegistry (some taggedClusters) secretKey = .ok t ∧ t.TellsApart [] ∧
      t.LeadsBack .empty [] ∧
      ¬ ∃ s, t.fromManifest (t.toManifest (shopContext true) "shop-orders" ordersJson [] .empty)
          .empty = .ok s ∧
        t.toManifest (shopContext true) "shop-orders" s.entry s.pathParams .empty =
          t.toManifest (shopContext true) "shop-orders" ordersJson [] .empty := by
  obtain ⟨t, ht, hp⟩ := exists_of_any (x := make ownerRegistry (some taggedClusters) secretKey)
    (p := fun t => decide (t.registry.rules = ownerRegistry.rules) &&
      (t.fromManifest (t.toManifest (shopContext true) "shop-orders" ordersJson [] .empty)
        .empty).toOption.isNone)
    (by decide +kernel)
  rw [Bool.and_eq_true, decide_eq_true_eq] at hp
  obtain ⟨hrules, hnone⟩ := hp
  refine ⟨t, ht, ⟨?_, ?_, ?_, ?_, ?_, ?_⟩, ?_, ?_⟩
  · rw [hrules]; decide
  · rw [hrules]; decide
  · rw [hrules]; decide
  · simp
  · simp
  · simp
  · simp [LeadsBack]
  · rintro ⟨s, hs, _⟩
    rw [hs] at hnone
    cases hnone

end Mapper

end AtlasManifests
