import OrgFederation.Management.IdentityProvider
import OrgFederation.Proofs.Json.MergePatch
import OrgFederation.Proofs.Json.Rendered
import OrgFederation.Proofs.Json.Values
import OrgFederation.Proofs.Json.Yields

namespace OrgFederation.IdentityProviderSettings

open Json (Node Entries nodes nodesOf Codec Rereads)

/-- The managed fields of settings. -/
def parts (settings : IdentityProviderSettings) : Parts :=
  (settings.id, settings.displayName, settings.ssoDebugEnabled, ())

/-- The entries that are no managed fields. -/
def unmanaged (listed : List (String × Node)) : List (String × Node) :=
  listed.filter fun entry => entry.1 ∉ fields.names

theorem names_nodup : fields.names.Nodup := by decide

variable {depth : Nat} {listed : List (String × Node)} {settings : IdentityProviderSettings}

/-- An entry with a field is stored before the entries behind it are taken. -/
theorem decodeEntries_of_store {name : String} {node : Node} {rest : Entries} {draft : fields.Draft}
    {other : Members} {stored : Except Json.DecodeError fields.Draft}
    (place : fields.store depth name node draft = some stored) :
    decodeEntries depth (.entry (.ok name) node rest) draft other =
      stored >>= fun draft => decodeEntries depth rest draft other := by
  simp only [decodeEntries, Json.mapError_ok, bind, Except.bind, place]

/-- An entry without field is inserted among the others. -/
theorem decodeEntries_of_notMem {name : String} {node : Node} {rest : Entries}
    {draft : fields.Draft} {other : Members} (unknown : name ∉ fields.names) :
    decodeEntries depth (.entry (.ok name) node rest) draft other =
      node.decodeValue depth >>= fun value =>
        decodeEntries depth rest draft (other.insert name value) := by
  simp only [decodeEntries, Json.mapError_ok, bind, Except.bind,
    Json.Fields.store_eq_none_iff.mpr unknown]

/-- Entries that decode all have names. -/
theorem exists_ofList_of_decodeEntries {depth : Nat} {settings : IdentityProviderSettings} :
    ∀ {entries : Entries} {draft : fields.Draft} {other : Members},
      decodeEntries depth entries draft other = .ok settings → ∃ listed, entries = .ofList listed
  | .closed, _, _, _ => ⟨[], rfl⟩
  | .broken _, _, _, decodes => by cases decodes
  | .entry (.error _) _ _, _, _, decodes => by cases decodes
  | .entry (.ok name) node rest, draft, other, decodes => by
      have further : ∃ next others, decodeEntries depth rest next others = .ok settings := by
        cases place : fields.store depth name node draft with
        | some stored =>
            rw [decodeEntries_of_store place] at decodes
            obtain ⟨next, -, decodes⟩ := Json.bind_eq_ok_iff.mp decodes
            exact ⟨next, other, decodes⟩
        | none =>
            rw [decodeEntries_of_notMem (Json.Fields.store_eq_none_iff.mp place)] at decodes
            obtain ⟨value, -, decodes⟩ := Json.bind_eq_ok_iff.mp decodes
            exact ⟨draft, other.insert name value, decodes⟩
      obtain ⟨next, others, decodes⟩ := further
      obtain ⟨listed, rfl⟩ := exists_ofList_of_decodeEntries decodes
      exact ⟨(name, node) :: listed, rfl⟩

/-- Entries decode to settings exactly when the managed fields become theirs and the entries besides
decode to the other members. -/
theorem decodeEntries_eq_ok_iff {draft : fields.Draft} {other : Members} :
    decodeEntries depth (.ofList listed) draft other = .ok settings ↔
      fields.Completes depth listed draft settings.parts ∧
        (Entries.ofList (unmanaged listed)).decodeMembers depth other = .ok settings.other := by
  induction listed generalizing draft other with
  | nil =>
      obtain ⟨id, displayName, debug, others⟩ := settings
      have finishes : decodeEntries depth (.ofList []) draft other =
          .ok ⟨id, displayName, debug, others⟩ ↔
          fields.finish draft = .ok (id, displayName, debug, ()) ∧ other = others := by
        rw [Entries.ofList, decodeEntries, Json.map_eq_ok_iff]
        constructor
        · rintro ⟨⟨_, _, _, _⟩, finishes, same⟩
          cases same
          exact ⟨finishes, rfl⟩
        · rintro ⟨finishes, rfl⟩
          exact ⟨_, finishes, rfl⟩
      rw [finishes, Json.Fields.finish_eq_ok_iff]
      exact and_congr Iff.rfl ⟨congrArg Except.ok, Except.ok.inj⟩
  | cons entry rest ih =>
      obtain ⟨name, node⟩ := entry
      rw [Entries.ofList]
      by_cases known : name ∈ fields.names
      · obtain ⟨stored, place⟩ : ∃ stored, fields.store depth name node draft = some stored :=
          Option.ne_none_iff_exists'.mp fun unplaced =>
            Json.Fields.store_eq_none_iff.mp unplaced known
        have managed : unmanaged ((name, node) :: rest) = unmanaged rest :=
          List.filter_cons_of_neg (by simpa using known)
        simp only [decodeEntries_of_store place, Json.bind_eq_ok_iff, ih, managed,
          Json.Fields.completes_cons_of_store names_nodup place]
        constructor
        · rintro ⟨next, stores, completes, others⟩
          exact ⟨⟨next, stores, completes⟩, others⟩
        · rintro ⟨⟨next, stores, completes⟩, others⟩
          exact ⟨next, stores, completes, others⟩
      · have besides : unmanaged ((name, node) :: rest) = (name, node) :: unmanaged rest :=
          List.filter_cons_of_pos (by simpa using known)
        simp only [decodeEntries_of_notMem known, Json.bind_eq_ok_iff, ih, besides,
          Json.Fields.completes_cons_of_notMem known, Entries.ofList,
          Entries.decodeMembers_entry]
        constructor
        · rintro ⟨value, decodes, completes, others⟩
          exact ⟨completes, value, decodes, others⟩
        · rintro ⟨completes, value, decodes, others⟩
          exact ⟨value, decodes, completes, others⟩

/-- An object decodes to settings exactly when it may be entered, the managed fields read theirs and
the entries besides decode to the other members. -/
theorem decode_object_eq_ok_iff :
    codec.decode depth (.object (.ofList listed)) = .ok settings ↔
      1 < depth ∧ fields.Reads (depth - 1) listed settings.parts ∧
        (Entries.ofList (unmanaged listed)).decodeMembers (depth - 1) [] = .ok settings.other := by
  have entered : codec.decode depth (.object (.ofList listed)) =
      Json.entering depth fun depth => decodeEntries depth (.ofList listed) fields.blank [] := rfl
  rw [entered]
  by_cases room : 1 < depth
  · rw [Json.entering_of_lt room, decodeEntries_eq_ok_iff, Json.Fields.completes_blank_iff]
    exact (and_iff_right room).symm
  · rw [Json.entering, if_pos (Nat.le_of_not_lt room)]
    simp [room]

/-- Only an object whose entries all have names decodes to settings. -/
theorem exists_entries_of_decode {node : Node} (decodes : codec.decode depth node = .ok settings) :
    ∃ listed, node = .object (.ofList listed) := by
  cases node with
  | object entries =>
      have entered : Json.entering depth
          (fun depth => decodeEntries depth entries fields.blank []) = .ok settings := decodes
      obtain ⟨listed, rfl⟩ :=
        exists_ofList_of_decodeEntries (Json.inside_of_entering entered)
      exact ⟨listed, rfl⟩
  | _ => cases decodes

/-- The other members of settings that were decoded are in order, none of them has the name of a
managed field, and each of them decodes as itself. -/
structure Kept (depth : Nat) (other : Members) : Prop where
  sorted : other.Sorted
  unmanaged : ∀ member ∈ other, member.1 ∉ fields.names
  reread : ∀ member ∈ other, Rereads depth member.2

/-- What entries hold under a name besides the managed fields. -/
theorem nodesOf_unmanaged (name : String) (listed : List (String × Node)) :
    nodesOf name (unmanaged listed) = if name ∈ fields.names then [] else nodesOf name listed := by
  induction listed with
  | nil => simp [unmanaged]
  | cons entry rest ih =>
      obtain ⟨held, node⟩ := entry
      by_cases known : held ∈ fields.names
      · have managed : unmanaged ((held, node) :: rest) = unmanaged rest :=
          List.filter_cons_of_neg (by simpa using known)
        rw [managed, ih]
        split
        · rfl
        · next unknown =>
            have different : held ≠ name := by
              rintro rfl
              exact unknown known
            rw [Json.nodesOf_cons_other different]
      · have besides : unmanaged ((held, node) :: rest) = (held, node) :: unmanaged rest :=
          List.filter_cons_of_pos (by simpa using known)
        rw [besides]
        by_cases same : held = name
        · subst same
          rw [Json.nodesOf_cons_self, ih, if_neg known, if_neg known, Json.nodesOf_cons_self]
        · rw [Json.nodesOf_cons_other same, ih, Json.nodesOf_cons_other same]

theorem kept_of_decodeMembers {other : Members}
    (decodes : (Entries.ofList (unmanaged listed)).decodeMembers depth [] = .ok other) :
    Kept depth other := by
  obtain ⟨sorted, reread⟩ := Entries.decoded decodes
  refine ⟨sorted, fun member listed known => ?_, reread⟩
  have found := sorted.lookup_of_mem listed
  rw [Entries.lookup_decodeMembers decodes, nodesOf_unmanaged, if_pos known] at found
  cases found

/-- Nothing is found among the other members under the name of a managed field. -/
theorem Kept.lookup_managed {other : Members} (kept : Kept depth other) {name : String}
    (known : name ∈ fields.names) : other.lookup name = none := by
  apply lookup_eq_none_of_notMem
  intro among
  obtain ⟨member, listed, rfl⟩ := List.mem_map.mp among
  exact kept.unmanaged member listed known

/-- The other members are those of the whole object, but for the managed fields. -/
theorem other_eq_filter {other members : Members}
    (decodes : (Entries.ofList (unmanaged listed)).decodeMembers depth [] = .ok other)
    (whole : (Entries.ofList listed).decodeMembers depth [] = .ok members) :
    other = members.filter fun member => member.1 ∉ fields.names := by
  have sorted : members.Sorted := (Entries.decoded whole).1
  have kept := kept_of_decodeMembers decodes
  apply kept.sorted.ext (sorted.filter _)
  intro name
  rw [sorted.lookup_filter]
  by_cases known : name ∈ fields.names
  · rw [kept.lookup_managed known]
    simp [known]
  · have same : other.lookup name = members.lookup name := by
      rw [Entries.lookup_decodeMembers decodes, Entries.lookup_decodeMembers whole,
        nodesOf_unmanaged, if_neg known]
    rw [same]
    cases members.lookup name with
    | none => rfl
    | some value => exact (Option.filter_some_pos (by simpa using known)).symm

/-- The members of settings as an object. -/
def members (settings : IdentityProviderSettings) : List (String × Json) :=
  fields.encode settings.parts ++ settings.other

theorem encode_eq (settings : IdentityProviderSettings) :
    codec.encode settings = .object settings.members := rfl

/-- The managed fields are written under names of their own, and the other members under others. -/
theorem Kept.members_nodup (kept : Kept depth settings.other) :
    (settings.members.map Prod.fst).Nodup := by
  have managed : List.Sublist ((fields.encode settings.parts).map Prod.fst) fields.names :=
    Json.Fields.encode_names_sublist settings.parts
  rw [members, List.map_append, List.nodup_append]
  refine ⟨managed.nodup names_nodup, kept.sorted.nodup, ?_⟩
  rintro name written _ among rfl
  obtain ⟨member, listed, rfl⟩ := List.mem_map.mp among
  exact kept.unmanaged member listed (managed.subset written)

/-- The managed fields that are set are written. -/
theorem encode_parts (settings : IdentityProviderSettings) :
    fields.encode settings.parts =
      ((settings.id.map Json.string).map (Prod.mk "id")).toList ++
        (((settings.displayName.map Json.string).map (Prod.mk "displayName")).toList ++
          ((settings.ssoDebugEnabled.map Json.bool).map (Prod.mk "ssoDebugEnabled")).toList) := by
  obtain ⟨id, displayName, debug, other⟩ := settings
  cases id <;> cases displayName <;> cases debug <;> rfl

/-- What holds of texts, of flags and of the other members holds of all members of settings. -/
theorem forall_members (holds : Json → Prop) (text : ∀ text, holds (.string text))
    (flag : ∀ flag, holds (.bool flag)) (others : ∀ member ∈ settings.other, holds member.2) :
    ∀ member ∈ settings.members, holds member.2 := by
  intro member listed
  rw [members, encode_parts] at listed
  simp only [List.mem_append, Option.mem_toList, Option.map_eq_some_iff] at listed
  rcases listed with (⟨_, ⟨_, -, rfl⟩, rfl⟩ | ⟨_, ⟨_, -, rfl⟩, rfl⟩ | ⟨_, ⟨_, -, rfl⟩, rfl⟩) | other
  · exact text _
  · exact text _
  · exact flag _
  · exact others member other

/-- Each member of settings decodes as itself. -/
theorem Kept.members_reread (kept : Kept depth settings.other) :
    ∀ member ∈ settings.members, Rereads depth member.2 :=
  forall_members (Rereads depth) (fun _ => rfl) (fun _ => rfl) kept.reread

/-- The members besides the managed fields are the other members. -/
theorem Kept.unmanaged_members (kept : Kept depth settings.other) :
    IdentityProviderSettings.unmanaged (nodes settings.members) = nodes settings.other := by
  have written : List.Sublist ((fields.encode settings.parts).map Prod.fst) fields.names :=
    Json.Fields.encode_names_sublist settings.parts
  rw [members, Json.nodes_append, IdentityProviderSettings.unmanaged, List.filter_append,
    List.filter_eq_nil_iff.mpr, List.filter_eq_self.mpr, List.nil_append]
  · intro entry listed
    obtain ⟨member, among, rfl⟩ := List.mem_map.mp listed
    exact decide_eq_true (kept.unmanaged member among)
  · intro entry listed
    obtain ⟨member, among, rfl⟩ := List.mem_map.mp listed
    have known : member.1 ∈ fields.names := written.subset (List.mem_map_of_mem among)
    simpa using known

/-- Settings are read back as they were written. -/
theorem Kept.decode_encode (kept : Kept (depth - 1) settings.other) (room : 1 < depth) :
    codec.decode depth (.ofJson (codec.encode settings)) = .ok settings := by
  have inner : 0 < depth - 1 := by omega
  have survive : fields.Survive fields.verbatim 0 settings.parts :=
    ⟨⟨_, rfl, Json.Field.optional_text_survives _⟩, ⟨_, rfl, Json.Field.optional_text_survives _⟩,
      ⟨_, rfl, Json.Field.optional_flag_survives _⟩, trivial⟩
  rw [encode_eq, Node.ofJson, Entries.ofJson_eq, decode_object_eq_ok_iff, kept.unmanaged_members,
    ← Entries.ofJson_eq]
  refine ⟨room, Json.Fields.reads_of_renders names_nodup inner survive ?_,
    Entries.decodeMembers_ofJson kept.sorted kept.reread⟩
  intro name known member listed
  rw [Json.Fields.lookup_verbatim listed]
  have rendered := Json.Rendition.kept_nodesOf kept.members_nodup name
  rw [members, List.lookup_append, kept.lookup_managed known, Option.or_none] at rendered
  exact rendered

/-- A codec whose values are the nodes that it decodes, none of them null. -/
structure Verbatim {α : Type} (codec : Codec α) : Prop where
  same : ∀ {depth : Nat} {node : Node} {value : α}, codec.decode depth node = .ok value →
    node.decodeValue depth = .ok (codec.encode value)
  filled : ∀ value, (codec.encode value).isNull = false

theorem text_verbatim : Verbatim Codec.text := by
  constructor
  · intro depth node value decodes
    cases node with
    | string text =>
        cases text with
        | ok text =>
            cases decodes
            rfl
        | error fault => cases decodes
    | _ => cases decodes
  · exact fun _ => rfl

theorem flag_verbatim : Verbatim Codec.flag := by
  constructor
  · intro depth node value decodes
    cases node with
    | bool flag =>
        cases decodes
        rfl
    | _ => cases decodes
  · exact fun _ => rfl

/-- A managed field tells the member of its name, unless that is null. -/
theorem lookup_of_reads {α : Type} {codec : Codec α} (verbatim : Verbatim codec) {name : String}
    {value : Option α} {members : Members}
    (reads : (Json.Field.optional name codec).Reads depth (nodesOf name listed) value)
    (whole : (Entries.ofList listed).decodeMembers depth [] = .ok members) :
    (members.lookup name).filter (fun held => !held.isNull) = value.map codec.encode := by
  rw [Entries.lookup_decodeMembers whole name]
  generalize nodesOf name listed = found at reads
  cases reads with
  | absent stands =>
      cases stands
      rfl
  | @held node _ decodes =>
      cases value with
      | none =>
          obtain rfl : node = .null := (Codec.optional_eq_none_iff decodes).mp rfl
          rfl
      | some told =>
          have alone : codec.decode depth node = .ok told := by
            cases node with
            | null => cases decodes
            | _ =>
                obtain ⟨_, inner, same⟩ := Json.map_eq_ok_iff.mp decodes
                cases same
                exact inner
          show (node.decodeValue depth).toOption.filter _ = _
          rw [verbatim.same alone]
          exact Option.filter_some_pos (by rw [verbatim.filled]; rfl)

/-- The members of an object with one flag set. A name of the provider that was null is left out. -/
def debugged (flag : Bool) (members : Members) : Members :=
  Members.insert "ssoDebugEnabled" (.bool flag) <| members.filter fun member =>
    !((member.1 = "id" || member.1 = "displayName") && member.2.isNull)

/-- Settings have integers for numbers when their other members do. -/
theorem isIntegral_encode (integral : Json.haveIntegral settings.other) :
    (codec.encode settings).isIntegral := by
  rw [encode_eq, Json.isIntegral, Json.haveIntegral_iff]
  exact forall_members (fun value => value.isIntegral = true) (fun _ => rfl) (fun _ => rfl)
    (Json.haveIntegral_iff.mp integral)

/-- What is found among the members of settings. -/
theorem Kept.lookup_members (kept : Kept depth settings.other) (name : String) :
    settings.members.lookup name =
      if name = "id" then settings.id.map Json.string
      else if name = "displayName" then settings.displayName.map Json.string
      else if name = "ssoDebugEnabled" then settings.ssoDebugEnabled.map Json.bool
      else settings.other.lookup name := by
  rw [members, encode_parts, List.lookup_append, List.lookup_append, List.lookup_append,
    Members.lookup_toList, Members.lookup_toList, Members.lookup_toList]
  by_cases known : name ∈ fields.names
  · rw [kept.lookup_managed known, Option.or_none]
    have named : name = "id" ∨ name = "displayName" ∨ name = "ssoDebugEnabled" := by
      simpa [fields, Json.Fields.names, Json.Field.optional] using known
    rcases named with rfl | rfl | rfl <;> simp
  · have unnamed : name ≠ "id" ∧ name ≠ "displayName" ∧ name ≠ "ssoDebugEnabled" := by
      simpa [fields, Json.Fields.names, Json.Field.optional] using known
    simp [unnamed]

/-- A document that decodes to settings and to an object does so entry by entry. -/
theorem exists_entries {document : Json.Document} {members : Members}
    (decodes : document.decode codec.decode = .ok settings)
    (whole : document.decode Node.decodeValue = .ok (.object members)) :
    ∃ listed, fields.Reads (Json.startDepth - 1) listed settings.parts ∧
      (Entries.ofList (unmanaged listed)).decodeMembers (Json.startDepth - 1) [] =
        .ok settings.other ∧
      (Entries.ofList listed).decodeMembers (Json.startDepth - 1) [] = .ok members := by
  have root := (Json.Document.decode_eq_ok_iff.mp decodes).1
  have value := (Json.Document.decode_eq_ok_iff.mp whole).1
  obtain ⟨listed, isObject⟩ := exists_entries_of_decode root
  rw [isObject] at root value
  obtain ⟨-, reads, others⟩ := decode_object_eq_ok_iff.mp root
  rw [Node.decodeValue] at value
  obtain ⟨_, inside, same⟩ := Json.map_eq_ok_iff.mp (Json.inside_of_entering value)
  cases same
  exact ⟨listed, reads, others, inside⟩

/-- Settings with the debug flag set. -/
def withDebug (settings : IdentityProviderSettings) (flag : Bool) : IdentityProviderSettings :=
  { settings with ssoDebugEnabled := some flag }

@[simp] theorem withDebug_id (flag : Bool) : (settings.withDebug flag).id = settings.id := rfl

@[simp] theorem withDebug_displayName (flag : Bool) :
    (settings.withDebug flag).displayName = settings.displayName := rfl

@[simp] theorem withDebug_other (flag : Bool) :
    (settings.withDebug flag).other = settings.other := rfl

/-- Settings with one flag set have the members of the object that was read with that flag set. -/
theorem lookup_debugged {members : Members}
    (reads : fields.Reads depth listed settings.parts)
    (others : (Entries.ofList (unmanaged listed)).decodeMembers depth [] = .ok settings.other)
    (whole : (Entries.ofList listed).decodeMembers depth [] = .ok members) (flag : Bool)
    (name : String) :
    (settings.withDebug flag).members.lookup name =
      (debugged flag members).lookup name := by
  have sorted : members.Sorted := (Entries.decoded whole).1
  have kept : Kept depth (settings.withDebug flag).other := kept_of_decodeMembers others
  obtain ⟨id, displayName, -⟩ := reads
  have id : (members.lookup "id").filter (fun held => !held.isNull) =
      settings.id.map Json.string := lookup_of_reads text_verbatim id whole
  have displayName : (members.lookup "displayName").filter (fun held => !held.isNull) =
      settings.displayName.map Json.string := lookup_of_reads text_verbatim displayName whole
  rw [kept.lookup_members, debugged, Members.lookup_insert, sorted.lookup_filter]
  by_cases isDebug : name = "ssoDebugEnabled"
  · subst isDebug
    rfl
  · rw [if_neg isDebug, if_neg isDebug]
    by_cases isId : name = "id"
    · subst isId
      simpa using id.symm
    · rw [if_neg isId]
      by_cases isName : name = "displayName"
      · subst isName
        simpa using displayName.symm
      · have unknown : name ∉ fields.names := by
          simp [fields, Json.Fields.names, Json.Field.optional, isId, isName, isDebug]
        rw [if_neg isName, withDebug_other, other_eq_filter others whole, sorted.lookup_filter]
        simp [unknown, isId, isName]

/-- Settings that were read and are written back with one flag set are the object that was read with
that flag set. -/
theorem ofText_debugged {document : Json.Document} {members : Members}
    (decodes : document.decode codec.decode = .ok settings)
    (whole : document.decode Node.decodeValue = .ok (.object members))
    (integral : Json.haveIntegral members) (flag : Bool) :
    Json.ofText (codec.encode (settings.withDebug flag)).render =
      .ok (.object (debugged flag members)) := by
  obtain ⟨listed, reads, others, inside⟩ := exists_entries decodes whole
  have kept : Kept (Json.startDepth - 1) (settings.withDebug flag).other :=
    kept_of_decodeMembers others
  have besides : Json.haveIntegral (settings.withDebug flag).other := by
    rw [withDebug_other, other_eq_filter others inside, Json.haveIntegral_iff]
    intro member listed
    exact Json.haveIntegral_iff.mp integral member (List.mem_filter.mp listed).1
  obtain ⟨later, decoded⟩ := Entries.exists_decodeMembers_ofJson kept.members_reread []
  have ordered := (Entries.decoded decoded).1
  have same : later = debugged flag members := by
    apply ordered.ext (Members.Sorted.insert ((Entries.decoded inside).1.filter _))
    intro name
    rw [Entries.lookup_decodeMembers_ofJson kept.members_nodup kept.members_reread decoded]
    exact lookup_debugged reads others inside flag name
  have read : (Node.ofJson (codec.encode (settings.withDebug flag))).decodeValue Json.startDepth =
      .ok (.object (debugged flag members)) := by
    rw [encode_eq, Node.ofJson, Node.decodeValue, Json.entering_of_lt (by decide), decoded, same]
    rfl
  exact Json.Document.decode_render (isIntegral_encode besides) read

/-- The flag that settings tell is the one of the object that was read. -/
theorem ssoDebugEnabled_of_lookup {document : Json.Document} {members : Members}
    (decodes : document.decode codec.decode = .ok settings)
    (whole : document.decode Node.decodeValue = .ok (.object members)) {flag : Bool}
    (told : settings.ssoDebugEnabled = some flag) :
    members.lookup "ssoDebugEnabled" = some (.bool flag) := by
  obtain ⟨listed, ⟨-, -, debug, -⟩, -, inside⟩ := exists_entries decodes whole
  have found := lookup_of_reads flag_verbatim debug inside
  have here : settings.parts.2.2.1 = some flag := told
  rw [here] at found
  exact (Option.filter_eq_some_iff.mp found).1

end OrgFederation.IdentityProviderSettings
