import AtlasManifests.Proofs.DeclaredTags

/-! # Members that a schema declares

A mapper writes members from four sides: the tag and the secret that gives access stand in `spec`,
the entry and the parameters below the tag.  Each of them is asked for by its own name in one of
two schemas, and references stand in place of parameters.  So nothing is written but what the
definition declares (`Mapper.toManifest_staysInside`): for a plain tag that is not the name of the
secret, whatever the object, its parameters and the index are.
-/
namespace AtlasManifests

/-- Pairs can be put in one part after the other. -/
theorem Assoc.insertAll_append {α : Type} (pairs later m : List (String × α)) :
    insertAll (pairs ++ later) m = insertAll later (insertAll pairs m) :=
  List.foldl_append

theorem Schema.declared?_eq_bind (schema : Json) (name : String) :
    declared? schema name = (schema.get? "properties").bind (·.get? name) := by
  rw [declared?, propertiesOf?, Option.bind_assoc]
  refine Option.bind_congr fun properties _ => ?_
  cases properties <;> rfl

namespace Mapper

variable {registry : Registry} {d : Definition} {t : Mapper} {ctx : Context} {source : Json}
variable {params : List (String × String)} {refs : ReferenceIndex} {independent : Bool}
variable {tag : String}

/-! ## What is declared -/

theorem tagProperty?_eq (name : String) :
    t.tagProperty? name = Schema.declared? t.tagSchema name :=
  (Schema.declared?_eq_bind _ _).symm

theorem specProperty?_eq (name : String) :
    t.specProperty? name = Schema.declared? t.specSchema name :=
  (Schema.declared?_eq_bind _ _).symm

/-! ## Below the tag -/

/-- Whatever stands below the tag is declared there: the entry, and each parameter under its own
name or that of a reference. -/
theorem isSome_tagProperty? {member : String × Json}
    (h : member ∈ t.payload independent refs source params) :
    (t.tagProperty? member.1).isSome = true := by
  rw [payload_eq_insertAll] at h
  rcases Assoc.mem_of_mem_insertAll h with h | h
  · obtain ⟨param, -, hmember⟩ := List.mem_filterMap.mp h
    rcases paramMember?_cases hmember with ⟨_, _, _, _, hdeclared, _, _, rfl⟩ | ⟨hdeclared, rfl⟩
    · exact hdeclared
    · exact hdeclared
  · obtain ⟨entry, hentry, rfl⟩ := List.mem_map.mp h
    obtain ⟨schema, hschema, -⟩ := Option.bind_eq_some_iff.mp (Option.mem_toList.mp hentry)
    exact Option.isSome_of_eq_some hschema

/-- Only parameters of the name, or references, are written in place of the entry. -/
theorem entryKey_not_mem_keys_of (hname : ∀ param ∈ params, param.1 ≠ entryKey)
    (href : ∀ param ∈ params, ∀ member,
      t.referenceFor? independent refs param.1 param.2 = some member → member.1 ≠ entryKey) :
    entryKey ∉ (t.members independent refs params).map (·.1) := by
  intro hkey
  obtain ⟨member, hmember, heq⟩ := List.mem_map.mp hkey
  obtain ⟨param, hparam, hmember⟩ := List.mem_filterMap.mp hmember
  rw [paramMember?] at hmember
  split at hmember
  · next found hfound =>
    obtain rfl := Option.some.inj hmember
    exact href param hparam found hfound heq
  · obtain ⟨_, _, rfl⟩ := Option.map_eq_some_iff.mp hmember
    exact hname param hparam heq

/-- An independent object has no references, but each declared parameter under its own name. -/
theorem paramMember?_of_independent (name value : String) :
    t.paramMember? true refs name value = (t.tagProperty? name).map fun _ => (name, .str value) :=
  rfl

/-- Of parameters of one name, the last one counts. -/
theorem lookup_payload_param {name value : String} {before after : List (String × String)}
    (hlast : name ∉ after.map (·.1)) (hdeclared : (t.tagProperty? name).isSome = true) :
    (t.payload true refs source (before ++ (name, value) :: after)).lookup name =
      some (.str value) := by
  have hafter : name ∉ (t.members true refs after).map (·.1) := by
    intro hkey
    obtain ⟨member, hmember, rfl⟩ := List.mem_map.mp hkey
    obtain ⟨param, hparam, hmember⟩ := List.mem_filterMap.mp hmember
    obtain ⟨_, _, rfl⟩ := Option.map_eq_some_iff.mp hmember
    exact hlast (List.mem_map_of_mem hparam)
  have hmembers : t.members true refs (before ++ (name, value) :: after) =
      t.members true refs before ++ (name, .str value) :: t.members true refs after := by
    obtain ⟨schema, hschema⟩ := Option.isSome_iff_exists.mp hdeclared
    rw [members, List.filterMap_append, List.filterMap_cons]
    simp only [paramMember?_of_independent, hschema, Option.map_some]
    rfl
  rw [payload_eq_insertAll, hmembers, Assoc.insertAll_append]
  refine (Assoc.lookup_insertAll_of_not_mem hafter _).trans ?_
  rw [Assoc.lookup_insert, if_pos rfl]

/-! ## Below `spec` -/

theorem mem_keys_specMembers {payload : List (String × Json)} {key : String} :
    key ∈ (t.specMembers ctx payload).map (·.1) ↔ key = t.tag ∨ key = secretKey ∧
      ctx.independent = true ∧ (t.specProperty? secretKey).isSome = true := by
  rw [specMembers, ← Bool.and_eq_true_iff]
  split
  · next hsecret =>
    rw [Assoc.mem_keys_insert, List.map_singleton, List.mem_singleton, or_comm,
      and_iff_left hsecret]
  · next hsecret =>
    rw [List.map_singleton, List.mem_singleton, or_iff_left fun h => hsecret h.2]

/-- What is written of an object, as the members of `spec` and of its tag, stays inside of the
schemas for the two. -/
structure StaysInside (t : Mapper) (ctx : Context) (source : Json) (params : List (String × String))
    (refs : ReferenceIndex) (members content : List (String × Json)) : Prop where
  tag_eq : members.lookup t.tag = some (.obj content)
  members_declared : ∀ member ∈ members,
    (Schema.declared? t.specSchema member.1).isSome = true
  content_declared : ∀ member ∈ content,
    (Schema.declared? t.tagSchema member.1).isSome = true
  /-- Unless a parameter is written in its place, the entry is what the schema lets through. -/
  entry : (∀ param ∈ params, param.1 ≠ entryKey) →
    (∀ param ∈ params, ∀ member,
      t.referenceFor? ctx.independent refs param.1 param.2 = some member →
        member.1 ≠ entryKey) →
    content.lookup entryKey =
      (Schema.declared? t.tagSchema entryKey).bind (Schema.prune · source)
  secret : secretKey ∈ members.map (·.1) ↔
    ctx.independent = true ∧ (Schema.declared? t.specSchema secretKey).isSome = true
  /-- The parameters of an independent object, with their last values. -/
  param : ctx.independent = true → ∀ before name value after,
    params = before ++ (name, value) :: after → name ∉ after.map (·.1) →
      (Schema.declared? t.tagSchema name).isSome = true → content.lookup name = some (.str value)

/-- **Nothing is written but what the definition declares**, by a mapper for a plain tag that is
not the name of the secret. -/
theorem toManifest_staysInside (hd : d.IsTyped) (hmake : make registry (some d) tag = .ok t)
    (hslash : '/' ∉ tag.toList) (htilde : '~' ∉ tag.toList) (hsecret : tag ≠ secretKey)
    (ctx : Context) (name : String) (source : Json) (params : List (String × String))
    (refs : ReferenceIndex) :
    t.tag = tag ∧ d.specSchema? = some t.specSchema ∧
      Schema.declared? t.specSchema tag = some t.tagSchema ∧
      ∃ members content,
        (t.toManifest ctx name source params refs).data.lookup "spec" = some (.obj members) ∧
          t.StaysInside ctx source params refs members content := by
  obtain ⟨rfl, hspec, htag⟩ := make_eq_ok hmake
  rw [walk?_of_isPlainTag (hd.specSchema hspec) (isPlainTag_of_not_mem hslash htilde)] at htag
  refine ⟨rfl, hspec, htag, _, t.payload ctx.independent refs source params, rfl, ?_⟩
  refine ⟨lookup_specMembers_tag (fun h => hsecret h.2.2) _, ?_, ?_, ?_, ?_, ?_⟩
  · intro member hmember
    rcases mem_keys_specMembers.mp (List.mem_map_of_mem hmember) with hkey | ⟨hkey, -, hdeclared⟩
    · rw [hkey, htag]
      rfl
    · rw [hkey, ← specProperty?_eq]
      exact hdeclared
  · intro member hmember
    rw [← tagProperty?_eq]
    exact isSome_tagProperty? hmember
  · intro hname href
    rw [lookup_payload_entryKey (entryKey_not_mem_keys_of hname href), ← tagProperty?_eq]
    rfl
  · rw [mem_keys_specMembers, ← specProperty?_eq, or_iff_right (Ne.symm hsecret),
      and_iff_right rfl]
  · rintro hmode before param value after rfl hlast hdeclared
    rw [hmode]
    exact lookup_payload_param hlast (tagProperty?_eq param ▸ hdeclared)

/-- An independent cluster whose group is given twice, with a parameter that is not declared. -/
theorem toManifest_staysInside_orders :
    ∃ t, make .usual (some (Embedded.clusters "2.10.0")) "v20250312" = .ok t ∧
      (Embedded.clusters "2.10.0").IsTyped ∧ '/' ∉ "v20250312".toList ∧
      '~' ∉ "v20250312".toList ∧ "v20250312" ≠ secretKey ∧
      ∃ members content,
        (t.toManifest (shopContext true) "shop-orders" ordersJson
          [("groupId", "0"), ("orgId", "9"), ("groupId", "1")] shopIndex).data.lookup "spec" =
            some (.obj members) ∧
        t.StaysInside (shopContext true) ordersJson
          [("groupId", "0"), ("orgId", "9"), ("groupId", "1")] shopIndex members content ∧
        content.lookup "groupId" = some (.str "1") := by
  obtain ⟨t, hmake, hdeclared⟩ := exists_of_any
    (x := make .usual (some (Embedded.clusters "2.10.0")) "v20250312")
    (p := fun t => (Schema.declared? t.tagSchema "groupId").isSome) (by decide +kernel)
  have hslash : '/' ∉ "v20250312".toList := by decide
  have htilde : '~' ∉ "v20250312".toList := by decide
  have hsecret : "v20250312" ≠ secretKey := by decide
  obtain ⟨-, -, -, members, content, hspec, hinside⟩ :=
    toManifest_staysInside Embedded.isTyped_clusters hmake hslash htilde hsecret
      (shopContext true) "shop-orders" ordersJson
      [("groupId", "0"), ("orgId", "9"), ("groupId", "1")] shopIndex
  have hgroup : content.lookup "groupId" = some (.str "1") :=
    hinside.param rfl [("groupId", "0"), ("orgId", "9")] "groupId" "1" [] rfl (by simp) hdeclared
  exact ⟨t, hmake, Embedded.isTyped_clusters, hslash, htilde, hsecret, members, content, hspec,
    hinside, hgroup⟩

end Mapper

end AtlasManifests
