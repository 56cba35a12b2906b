import LittleOrgans.Core.JsonValue
import LittleOrgans.Identity.Authorization
import LittleOrgans.Library.Except

/-!
# The principal codec

How a principal is written to a JSON document and read from one. A reader keeps the fields of
a kind it does not know, and a writer puts them back beside the kind.

`principalCodec` says which documents are read, and as what: nothing is lost of a principal of
an unknown kind, and of a local one only what stands beside kind and uid. A principal is read
back as it was written exactly when a reader can get it at all.
-/

set_option autoImplicit false

namespace LittleOrgans.Identity

open LittleOrgans.Core
open LittleOrgans.Library

/-- The errors of a `Deserialize`, without the place in the text. -/
inductive JsonError where
  | invalidType (expected : String)
  | custom (text : String)
  | missingField (field : String)
  | duplicateField (field : String)
  | unknownVariant (name : String)
  deriving DecidableEq

/-! ## Writing -/

/-- A `u32` in JSON. -/
def uidNumber (uid : UInt32) : Json := .number (.posInt uid.toUInt64)

/-- `Serialize for Principal`. -/
def Principal.serialize : Principal → Json
  | .localUid uid => .object [("kind", .string "Local"), ("uid", uidNumber uid)]
  | .unknown kind (.object fields) =>
      .object (("kind", .string kind) :: fields.filter fun field => decide (field.1 ≠ "kind"))
  | .unknown kind raw => .object [("kind", .string kind), ("raw", raw)]

/-! ## Reading -/

/-- What `PrincipalVisitor` has seen. -/
structure PrincipalFields where
  kind : Option String
  uid : Option UInt32
  raw : List (String × Json)

namespace PrincipalFields

def empty : PrincipalFields := ⟨none, none, []⟩

/-- The `uid` field as a `u32`. -/
def readUid (value : Json) : Except JsonError UInt32 :=
  match value.asU64 with
  | none => .error (.custom "local principal uid must be a u32")
  | some parsed =>
      if h : parsed < UInt32.size then .ok (UInt32.ofNatLT parsed h)
      else .error (.custom "out of range integral type conversion attempted")

/-- The `kind` field as a string. -/
def readKind (value : Json) : Except JsonError String :=
  match value.asStr with
  | some kind => .ok kind
  | none => .error (.custom "principal kind must be a string")

/-- One entry of `visit_map`. -/
def visit (seen : PrincipalFields) (entry : String × Json) : Except JsonError PrincipalFields :=
  let value := entry.2.value
  if entry.1 = "kind" then do
    let kind ← readKind value
    return { seen with kind := some kind }
  else if entry.1 = "uid" then do
    let uid ← readUid value
    return { seen with uid := some uid, raw := SortedMap.insert entry.1 value seen.raw }
  else return { seen with raw := SortedMap.insert entry.1 value seen.raw }

/-- The end of `visit_map`. -/
def finish (seen : PrincipalFields) : Except JsonError Principal :=
  match seen.kind with
  | none => .error (.missingField "kind")
  | some kind =>
      if kind = "Local" then
        match seen.uid with
        | some uid => .ok (.localUid uid)
        | none => .error (.missingField "uid")
      else .ok (.unknown kind (.object seen.raw))

end PrincipalFields

/-- `Deserialize for Principal`. -/
def Principal.deserialize : Json → Except JsonError Principal
  | .object entries => do
      let seen ← entries.foldlM PrincipalFields.visit .empty
      seen.finish
  | _ => .error (.invalidType "an identity principal object")

/-! ## What is read -/

/-- The reserved fields of a document have their types, wherever they stand. -/
def ReadableEntry (entry : String × Json) : Prop :=
  (entry.1 = "kind" → ∃ kind, entry.2 = .string kind) ∧
    (entry.1 = "uid" → ∃ uid, entry.2 = uidNumber uid)

/-- The fields of a principal of an unknown kind. -/
structure RawFields (fields : List (String × Json)) : Prop where
  sorted : SortedMap.Sorted fields
  values : ∀ field ∈ fields, field.2.IsValue
  noKind : ∀ field ∈ fields, field.1 ≠ "kind"
  uids : ∀ field ∈ fields, field.1 = "uid" → ∃ uid, field.2 = uidNumber uid

/-- The principals that a reader can get. -/
def Principal.Canonical : Principal → Prop
  | .localUid _ => True
  | .unknown kind raw => kind ≠ "Local" ∧ ∃ fields, raw = .object fields ∧ RawFields fields

/-- What a document says about the principal that is read from it. -/
def Principal.Describes (value : Json) : Principal → Prop
  | .localUid uid =>
      value.get "kind" = some (.string "Local") ∧ value.get "uid" = some (uidNumber uid)
  | .unknown kind raw => (Principal.serialize (.unknown kind raw)).value = value

theorem kind_ne_uid : "kind" ≠ "uid" := by decide

theorem uidNumber_inj {uid uid' : UInt32} (h : uidNumber uid = uidNumber uid') : uid = uid' := by
  have huid : uid.toUInt64 = uid'.toUInt64 := JsonNumber.posInt.inj (Json.number.inj h)
  have hnat := congrArg UInt64.toNat huid
  rw [UInt32.toNat_toUInt64, UInt32.toNat_toUInt64] at hnat
  exact UInt32.toNat_inj.mp hnat

theorem readableEntry_kind (kind : String) : ReadableEntry ("kind", .string kind) :=
  ⟨fun _ => ⟨kind, rfl⟩, fun h => absurd h kind_ne_uid⟩

theorem readableEntry_uid (uid : UInt32) : ReadableEntry ("uid", uidNumber uid) :=
  ⟨fun h => absurd h.symm kind_ne_uid, fun _ => ⟨uid, rfl⟩⟩

theorem RawFields.insert {fields : List (String × Json)} (h : RawFields fields) {key : String}
    {value : Json} (hvalue : value.IsValue) (hkind : key ≠ "kind")
    (huid : key = "uid" → ∃ uid, value = uidNumber uid) :
    RawFields (SortedMap.insert key value fields) where
  sorted := h.sorted.insert
  values field hfield := by
    rcases SortedMap.mem_of_mem_insert hfield with rfl | hold
    · exact hvalue
    · exact h.values field hold
  noKind field hfield := by
    rcases SortedMap.mem_of_mem_insert hfield with rfl | hold
    · exact hkind
    · exact h.noKind field hold
  uids field hfield := by
    rcases SortedMap.mem_of_mem_insert hfield with rfl | hold
    · exact huid
    · exact h.uids field hold

theorem RawFields.lookup_kind {fields : List (String × Json)} (h : RawFields fields) :
    fields.lookup "kind" = none := by
  apply List.lookup_eq_none_iff.mpr
  intro field hfield
  exact bne_iff_ne.mpr (h.noKind field hfield).symm

theorem RawFields.filter_kind {fields : List (String × Json)} (h : RawFields fields) :
    (fields.filter fun field => decide (field.1 ≠ "kind")) = fields := by
  apply List.filter_eq_self.mpr
  intro field hfield
  exact decide_eq_true (h.noKind field hfield)

namespace PrincipalFields

variable {seen seen' : PrincipalFields} {entry : String × Json}
  {entries visited : List (String × Json)}

theorem readUid_eq_ok {value : Json} {uid : UInt32} :
    readUid value = .ok uid ↔ value = uidNumber uid := by
  constructor
  · intro h
    rw [readUid] at h
    split at h
    · cases h
    · next parsed hparsed =>
        split at h
        · next hlt =>
            cases h
            cases value with
            | number n =>
                cases n with
                | posInt n =>
                    cases hparsed
                    rw [uidNumber]
                    congr 2
                | negInt _ => cases hparsed
                | float _ => cases hparsed
            | null => cases hparsed
            | bool _ => cases hparsed
            | string _ => cases hparsed
            | array _ => cases hparsed
            | object _ => cases hparsed
        · cases h
  · rintro rfl
    rw [readUid, uidNumber, Json.asU64]
    simp only [UInt32.toNat_toUInt64, UInt32.ofNatLT_toNat, dif_pos uid.toNat_lt]

theorem readKind_eq_ok {value : Json} {kind : String} :
    readKind value = .ok kind ↔ value = .string kind := by
  constructor
  · intro h
    cases value with
    | string text =>
        cases h
        rfl
    | null => cases h
    | bool _ => cases h
    | number _ => cases h
    | array _ => cases h
    | object _ => cases h
  · rintro rfl
    rfl


/-- What one entry does. -/
theorem visit_cases (h : seen.visit entry = .ok seen') :
    (∃ kind, entry = ("kind", .string kind) ∧ seen' = { seen with kind := some kind }) ∨
      (∃ uid, entry = ("uid", uidNumber uid) ∧ seen' = { seen with
        uid := some uid, raw := SortedMap.insert "uid" (uidNumber uid) seen.raw }) ∨
      (entry.1 ≠ "kind" ∧ entry.1 ≠ "uid" ∧
        seen' = { seen with raw := SortedMap.insert entry.1 entry.2.value seen.raw }) := by
  obtain ⟨key, item⟩ := entry
  rw [visit] at h
  split at h
  · next hkey =>
      obtain ⟨kind, hkind, hseen⟩ := Except.bind_eq_ok.mp h
      cases hseen
      exact .inl ⟨kind, Prod.ext hkey (Json.value_eq_string.mp (readKind_eq_ok.mp hkind)), rfl⟩
  · next hkind =>
      split at h
      · next hkey =>
          obtain ⟨uid, huid, hseen⟩ := Except.bind_eq_ok.mp h
          cases hseen
          have hitem : item = uidNumber uid := Json.value_eq_number.mp (readUid_eq_ok.mp huid)
          refine .inr (.inl ⟨uid, Prod.ext hkey hitem, ?_⟩)
          rw [hitem, hkey]
          rfl
      · next hkey =>
          cases h
          exact .inr (.inr ⟨hkind, hkey, rfl⟩)

theorem exists_visit_iff (seen : PrincipalFields) :
    (∃ seen', seen.visit entry = .ok seen') ↔ ReadableEntry entry := by
  constructor
  · rintro ⟨seen', h⟩
    rcases visit_cases h with ⟨kind, rfl, -⟩ | ⟨uid, rfl, -⟩ | ⟨hkind, huid, -⟩
    · exact readableEntry_kind kind
    · exact readableEntry_uid uid
    · exact ⟨fun h => absurd h hkind, fun h => absurd h huid⟩
  · rintro ⟨hkind, huid⟩
    rw [visit]
    split
    · next hkey =>
        obtain ⟨kind, hitem⟩ := hkind hkey
        rw [hitem]
        exact ⟨_, rfl⟩
    · split
      · next hkey =>
          obtain ⟨uid, hitem⟩ := huid hkey
          have hread : readUid (uidNumber uid).value = .ok uid := readUid_eq_ok.mpr rfl
          rw [hitem, hread]
          exact ⟨_, rfl⟩
      · exact ⟨_, rfl⟩

theorem exists_foldlM_iff (seen : PrincipalFields) :
    (∃ seen', entries.foldlM visit seen = .ok seen') ↔ ∀ entry ∈ entries, ReadableEntry entry := by
  induction entries generalizing seen with
  | nil => simp [pure, Except.pure]
  | cons entry entries ih =>
      rw [List.forall_mem_cons, ← exists_visit_iff seen]
      constructor
      · rintro ⟨seen', h⟩
        rw [List.foldlM_cons] at h
        obtain ⟨next, hnext, hrest⟩ := Except.bind_eq_ok.mp h
        exact ⟨⟨next, hnext⟩, (ih next).mp ⟨seen', hrest⟩⟩
      · rintro ⟨⟨next, hnext⟩, hrest⟩
        obtain ⟨seen', hseen'⟩ := (ih next).mpr hrest
        rw [List.foldlM_cons]
        exact ⟨seen', Except.bind_eq_ok.mpr ⟨next, hnext, hseen'⟩⟩

/-! ### What has been seen -/

/-- The value of what has been seen: the raw fields, and the kind if there was one. -/
def merged (seen : PrincipalFields) : List (String × Json) :=
  match seen.kind with
  | none => seen.raw
  | some kind => SortedMap.insert "kind" (.string kind) seen.raw

/-- The state of the visitor behind these entries. -/
structure Collects (visited : List (String × Json)) (seen : PrincipalFields) : Prop where
  raw : RawFields seen.raw
  uid : seen.raw.lookup "uid" = seen.uid.map uidNumber
  merged : SortedMap.ofList (Json.valueEntries visited) = seen.merged

theorem collects_empty : Collects [] empty where
  raw := {
    sorted := .nil
    values := fun _ hfield => absurd hfield List.not_mem_nil
    noKind := fun _ hfield => absurd hfield List.not_mem_nil
    uids := fun _ hfield => absurd hfield List.not_mem_nil }
  uid := rfl
  merged := rfl

/-- A raw field is inserted beside the kind. -/
theorem insert_merged {key : String} {value : Json} (hkind : key ≠ "kind") (uid : Option UInt32) :
    SortedMap.insert key value seen.merged =
      merged { seen with uid := uid, raw := SortedMap.insert key value seen.raw } := by
  cases hseen : seen.kind with
  | none =>
      rw [merged, merged]
      simp only [hseen]
  | some kind =>
      rw [merged, merged]
      simp only [hseen]
      exact SortedMap.insert_comm hkind

theorem Collects.visit (h : Collects visited seen) (hvisit : seen.visit entry = .ok seen') :
    Collects (visited ++ [entry]) seen' := by
  have hmerged : SortedMap.ofList (Json.valueEntries (visited ++ [entry])) =
      SortedMap.insert entry.1 entry.2.value seen.merged := by
    rw [Json.valueEntries_eq_map, List.map_append, List.map_singleton, SortedMap.ofList_concat,
      ← Json.valueEntries_eq_map, h.merged]
  rcases visit_cases hvisit with ⟨kind, rfl, rfl⟩ | ⟨uid, rfl, rfl⟩ | ⟨hkind, huid, rfl⟩
  · -- a later kind replaces an earlier one
    refine ⟨h.raw, h.uid, hmerged.trans ?_⟩
    cases hseen : seen.kind with
    | none => simp [PrincipalFields.merged, hseen, Json.value]
    | some kind' =>
        simp only [PrincipalFields.merged, hseen]
        exact SortedMap.insert_insert
  · refine ⟨h.raw.insert rfl kind_ne_uid.symm fun _ => ⟨uid, rfl⟩, ?_,
      hmerged.trans (insert_merged kind_ne_uid.symm (some uid))⟩
    exact SortedMap.lookup_insert_self
  · refine ⟨h.raw.insert (Json.value_value _) hkind fun hkey => absurd hkey huid, ?_,
      hmerged.trans (insert_merged hkind seen.uid)⟩
    exact (SortedMap.lookup_insert_ne (Ne.symm huid)).trans h.uid

theorem Collects.foldlM (h : Collects visited seen)
    (hfold : entries.foldlM PrincipalFields.visit seen = .ok seen') :
    Collects (visited ++ entries) seen' := by
  induction entries generalizing visited seen with
  | nil =>
      cases hfold
      rwa [List.append_nil]
  | cons entry entries ih =>
      rw [List.foldlM_cons] at hfold
      obtain ⟨next, hnext, hrest⟩ := Except.bind_eq_ok.mp hfold
      have hall := ih (h.visit hnext) hrest
      rwa [List.append_assoc, List.singleton_append] at hall

theorem Collects.lookup_kind (h : Collects visited seen) :
    seen.merged.lookup "kind" = seen.kind.map .string := by
  cases hseen : seen.kind with
  | none =>
      simp only [PrincipalFields.merged, hseen]
      exact h.raw.lookup_kind
  | some kind =>
      simp only [PrincipalFields.merged, hseen]
      exact SortedMap.lookup_insert_self

theorem Collects.lookup_uid (h : Collects visited seen) :
    seen.merged.lookup "uid" = seen.uid.map uidNumber := by
  rw [← h.uid]
  cases hseen : seen.kind with
  | none => simp only [PrincipalFields.merged, hseen]
  | some kind =>
      simp only [PrincipalFields.merged, hseen]
      exact SortedMap.lookup_insert_ne kind_ne_uid.symm

theorem finish_eq_ok {p : Principal} : seen.finish = .ok p ↔
    (seen.kind = some "Local" ∧ ∃ uid, seen.uid = some uid ∧ p = .localUid uid) ∨
      ∃ kind, seen.kind = some kind ∧ kind ≠ "Local" ∧ p = .unknown kind (.object seen.raw) := by
  obtain ⟨kind, uid, raw⟩ := seen
  cases kind with
  | none => simp [finish]
  | some kind =>
      by_cases hkind : kind = "Local"
      · cases uid with
        | none => simp [finish, hkind]
        | some uid => simp [finish, hkind, eq_comm]
      · simp [finish, hkind, eq_comm]

end PrincipalFields

/-! ## Round trips -/

/-- The value of a principal of an unknown kind. -/
theorem value_serialize_unknown {kind : String} {fields : List (String × Json)}
    (h : RawFields fields) : (Principal.serialize (.unknown kind (.object fields))).value =
      .object (SortedMap.insert "kind" (.string kind) fields) := by
  have hvalues : Json.valueEntries fields = fields := Json.valueEntries_eq_self h.values
  rw [Principal.serialize, h.filter_kind, Json.value, Json.valueEntries, hvalues,
    SortedMap.ofList_cons h.sorted h.noKind]
  rfl

variable {tree : Json} {p : Principal}

open PrincipalFields in
/-- The documents that are read, and the principals that are read from them. -/
theorem deserialize_eq_ok_iff : Principal.deserialize tree = .ok p ↔
    (∃ entries, tree = .object entries ∧ ∀ entry ∈ entries, ReadableEntry entry) ∧
      p.Canonical ∧ p.Describes tree.value := by
  constructor
  · intro h
    cases tree with
    | object entries =>
        obtain ⟨seen, hfold, hfinish⟩ := Except.bind_eq_ok.mp h
        have hcollects : Collects entries seen := collects_empty.foldlM hfold
        refine ⟨⟨entries, rfl, (exists_foldlM_iff empty).mp ⟨seen, hfold⟩⟩, ?_⟩
        rcases finish_eq_ok.mp hfinish with ⟨hkind, uid, huid, rfl⟩ | ⟨kind, hkind, hlocal, rfl⟩
        · refine ⟨trivial, ?_, ?_⟩
          · rw [Json.value, Json.get, hcollects.merged, hcollects.lookup_kind, hkind]
            rfl
          · rw [Json.value, Json.get, hcollects.merged, hcollects.lookup_uid, huid]
            rfl
        · refine ⟨⟨hlocal, seen.raw, rfl, hcollects.raw⟩, ?_⟩
          rw [Principal.Describes, value_serialize_unknown hcollects.raw, Json.value,
            hcollects.merged, merged, hkind]
    | null => cases h
    | bool _ => cases h
    | number _ => cases h
    | string _ => cases h
    | array _ => cases h
  · rintro ⟨⟨entries, rfl, hreadable⟩, hcanonical, hdescribes⟩
    obtain ⟨seen, hfold⟩ := (exists_foldlM_iff empty).mpr hreadable
    have hcollects : Collects entries seen := collects_empty.foldlM hfold
    refine Except.bind_eq_ok.mpr ⟨seen, hfold, finish_eq_ok.mpr ?_⟩
    cases p with
    | localUid uid =>
        obtain ⟨hkind, huid⟩ := hdescribes
        rw [Json.value, Json.get, hcollects.merged] at hkind huid
        rw [hcollects.lookup_kind] at hkind
        rw [hcollects.lookup_uid] at huid
        obtain ⟨kind, hseen, hlocal⟩ := Option.map_eq_some_iff.mp hkind
        obtain ⟨uid', hseen', hnumber⟩ := Option.map_eq_some_iff.mp huid
        refine .inl ⟨hseen.trans (congrArg some (Json.string.inj hlocal)), uid', hseen', ?_⟩
        rw [uidNumber_inj hnumber]
    | unknown kind raw =>
        obtain ⟨hlocal, fields, rfl, hfields⟩ := hcanonical
        rw [Principal.Describes, value_serialize_unknown hfields, Json.value,
          hcollects.merged] at hdescribes
        have hmerged : SortedMap.insert "kind" (.string kind) fields = seen.merged :=
          Json.object.inj hdescribes
        have hseen : seen.kind = some kind := by
          have hlookup := hcollects.lookup_kind
          rw [← hmerged, SortedMap.lookup_insert_self] at hlookup
          obtain ⟨kind', hseen, hkind⟩ := Option.map_eq_some_iff.mp hlookup.symm
          exact hseen.trans (congrArg some (Json.string.inj hkind))
        -- without their kinds both maps are the raw fields
        have hraw : fields = seen.raw := by
          rw [merged, hseen] at hmerged
          have hfilter := congrArg (List.filter fun field => decide (field.1 ≠ "kind")) hmerged
          rwa [SortedMap.filter_insert, SortedMap.filter_insert, hfields.filter_kind,
            hcollects.raw.filter_kind] at hfilter
        exact .inr ⟨kind, hseen, hlocal, by rw [hraw]⟩

/-- A principal is read back as it was written exactly when it can be read at all. -/
theorem deserialize_serialize_iff :
    Principal.deserialize p.serialize = .ok p ↔ p.Canonical := by
  constructor
  · intro h
    exact (deserialize_eq_ok_iff.mp h).2.1
  · intro h
    refine deserialize_eq_ok_iff.mpr ⟨?_, h, ?_⟩
    · cases p with
      | localUid uid =>
          refine ⟨_, rfl, ?_⟩
          intro entry hentry
          rcases List.mem_cons.mp hentry with rfl | hrest
          · exact readableEntry_kind "Local"
          · cases List.mem_singleton.mp hrest
            exact readableEntry_uid uid
      | unknown kind raw =>
          obtain ⟨-, fields, rfl, hfields⟩ := h
          refine ⟨("kind", .string kind) :: fields, ?_, ?_⟩
          · rw [Principal.serialize, hfields.filter_kind]
          intro entry hentry
          rcases List.mem_cons.mp hentry with rfl | hrest
          · exact readableEntry_kind kind
          · exact ⟨fun hkind => absurd hkind (hfields.noKind entry hrest), hfields.uids entry hrest⟩
    · cases p with
      | localUid uid =>
          have hlt : "kind" < "uid" := by decide
          have hsorted : SortedMap.Sorted
              [("kind", Json.string "Local"), ("uid", uidNumber uid)] := List.pairwise_pair.mpr hlt
          have hvalue : (Principal.localUid uid).serialize.value =
              .object [("kind", .string "Local"), ("uid", uidNumber uid)] :=
            congrArg Json.object (SortedMap.ofList_of_sorted hsorted)
          rw [hvalue]
          exact ⟨rfl, rfl⟩
      | unknown kind raw => rfl

/-- Two principals that are written alike are the same, if one of them can be read back. -/
theorem Principal.Canonical.eq_of_serialize {q : Principal} (h : q.Canonical)
    (hsame : p.serialize = q.serialize) (hp : p.Canonical) : p = q := by
  have hread := deserialize_serialize_iff.mpr hp
  rw [hsame, deserialize_serialize_iff.mpr h] at hread
  cases hread
  rfl

/-- **The principal codec.** -/
theorem principalCodec :
    (∀ p, Principal.deserialize (Principal.serialize p) = .ok p ↔ Principal.Canonical p) ∧
      ∀ tree p, Principal.deserialize tree = .ok p ↔
        (∃ entries, tree = .object entries ∧ ∀ entry ∈ entries, ReadableEntry entry) ∧
          Principal.Canonical p ∧ Principal.Describes tree.value p :=
  ⟨fun _ => deserialize_serialize_iff, fun _ _ => deserialize_eq_ok_iff⟩

/-- The fields of a newer kind are kept. -/
example : Principal.deserialize
    (.object [("kind", .string "Future"), ("data", .object [("subject", .string "account")])]) =
      .ok (.unknown "Future" (.object [("data", .object [("subject", .string "account")])])) :=
  rfl

end LittleOrgans.Identity
