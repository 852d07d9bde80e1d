import OrgFederation.Account.Client
import OrgFederation.Proofs.Json.Objects
import OrgFederation.Proofs.Url.Segments
import OrgFederation.Settings.Basic

namespace OrgFederation

variable {ω : Type}

namespace UrlReader

/-- A part with others behind it leaves a path that they are put behind. -/
theorem resolveDots_cons (done : List (List Char)) (part next : List Char)
    (rest : List (List Char)) : ∃ path,
      resolveDots done (part :: next :: rest) = resolveDots path (next :: rest) := by
  rw [resolveDots.eq_2]
  cases dots part with
  | none => exact ⟨_, rfl⟩
  | some count =>
      rcases count with - | - | - | count
      · exact ⟨_, rfl⟩
      · exact ⟨_, rfl⟩
      · exact ⟨_, rfl⟩
      · exact ⟨_, rfl⟩

/-- A path that is read has at least one part. -/
theorem resolveDots_ne_nil {parts : List (List Char)} (filled : parts ≠ [])
    (done : List (List Char)) : resolveDots done parts ≠ [] := by
  induction parts generalizing done with
  | nil => exact absurd rfl filled
  | cons part rest ih =>
      cases rest with
      | nil =>
          by_cases isDots : dots part = some 1 ∨ dots part = some 2
          · rcases UrlSegments.resolveDots_dots done isDots with same | same
            · exact same ▸ List.append_ne_nil_of_right_ne_nil _ (List.cons_ne_nil _ _)
            · exact same ▸ List.append_ne_nil_of_right_ne_nil _ (List.cons_ne_nil _ _)
          · rw [not_or] at isDots
            rw [UrlSegments.resolveDots_part done isDots.1 isDots.2]
            exact List.append_ne_nil_of_right_ne_nil _ (List.cons_ne_nil _ _)
      | cons next rest =>
          obtain ⟨path, same⟩ := resolveDots_cons done part next rest
          rw [same]
          exact ih (List.cons_ne_nil _ _) path

theorem split_ne_nil (separator : Char → Bool) (letters : List Char) :
    Address.split separator letters ≠ [] := by
  cases letters with
  | nil => exact List.cons_ne_nil _ _
  | cons letter rest =>
      rw [Address.split]
      split
      · exact List.cons_ne_nil _ _
      · split
        · exact List.cons_ne_nil _ _
        · exact List.cons_ne_nil _ _

/-- The path of a special scheme has at least one part. -/
theorem pathBehind_special (input : List Char) :
    ∃ held, pathBehind true input = .rooted held ∧ held ≠ [] := by
  have read (letters : List Char) : segments true letters ≠ [] := by
    refine resolveDots_ne_nil ?_ _
    rw [ne_eq, List.map_eq_nil_iff]
    exact split_ne_nil _ _
  cases input with
  | nil => exact ⟨_, rfl, List.cons_ne_nil _ _⟩
  | cons letter rest => exact ⟨_, rfl, read _⟩

end UrlReader

/-- An address that has others below it: it has an authority, and its path starts at a root. -/
structure Url.Based (url : Url) (authority : Authority) (held : List (List Char)) : Prop where
  authority : url.authority = some authority
  path : url.path = .rooted held
  filled : held ≠ []

/-- A URL with an authority of a special scheme has others below it. -/
theorem UrlReader.behindAuthority_based {scheme : String} {input : List Char} {url : Url}
    (special : Url.isSpecialScheme scheme = true)
    (reads : UrlReader.behindAuthority scheme input = .ok url) :
    ∃ authority held, url.Based authority held := by
  rw [behindAuthority, special] at reads
  obtain ⟨⟨authority, rest⟩, -, reads⟩ := Json.bind_eq_ok_iff.mp reads
  obtain ⟨held, path, filled⟩ := pathBehind_special (rest.span fun letter => !endsPath letter).1
  cases reads
  exact ⟨authority, held, rfl, path, filled⟩

/-- A URL that is read keeps its scheme. -/
theorem UrlReader.plain_scheme {scheme : String} {input : List Char} {url : Url}
    (reads : UrlReader.plain scheme input = .ok url) : url.scheme = scheme := by
  unfold plain at reads
  split at reads
  · rw [behindAuthority] at reads
    obtain ⟨authority, -, reads⟩ := Json.bind_eq_ok_iff.mp reads
    cases reads
    rfl
  · cases reads
    rfl

theorem UrlReader.file_scheme {input : List Char} {url : Url}
    (reads : UrlReader.file input = .ok url) : url.scheme = "file" := by
  unfold file at reads
  dsimp only at reads
  split at reads
  · split at reads
    · split at reads
      · cases reads
        rfl
      · obtain ⟨host, -, reads⟩ := Json.bind_eq_ok_iff.mp reads
        cases reads
        rfl
    · cases reads
      rfl
  · cases reads
    rfl

/-- A URL that is reached over the web has others below it. -/
theorem Url.based_of_isHttp {text : String} {url : Url} (reads : Url.ofText text = .ok url)
    (web : url.isHttp = true) : ∃ authority held, url.Based authority held := by
  rw [ofText] at reads
  split at reads
  · cases reads
  rename_i scheme rest _
  rw [isHttp] at web
  split at reads
  · rw [UrlReader.file_scheme reads] at web
    exact absurd web (by decide)
  split at reads
  · exact UrlReader.behindAuthority_based ‹_› reads
  · rename_i plain
    refine absurd ?_ plain
    rw [UrlReader.plain_scheme reads, Bool.or_eq_true, beq_iff_eq, beq_iff_eq] at web
    rcases web with rfl | rfl
    · rfl
    · rfl

/-- Valid settings have a base address that was read and is reached over the web. -/
theorem Settings.apiBaseUrl_reads {raw : RawSettings} {settings : Settings}
    (accepted : Settings.ofRaw raw = .ok settings) :
    ∃ text, Url.ofText text = .ok settings.apiBaseUrl ∧ settings.apiBaseUrl.isHttp = true := by
  rw [ofRaw] at accepted
  obtain ⟨url, reads, accepted⟩ := Json.bind_eq_ok_iff.mp accepted
  obtain ⟨resync, -, accepted⟩ := Json.bind_eq_ok_iff.mp accepted
  obtain ⟨retry, -, accepted⟩ := Json.bind_eq_ok_iff.mp accepted
  obtain ⟨timeout, -, accepted⟩ := Json.bind_eq_ok_iff.mp accepted
  obtain ⟨format, -, accepted⟩ := Json.bind_eq_ok_iff.mp accepted
  cases accepted
  rw [baseUrl] at reads
  split at reads
  · cases reads
  · rename_i read
    split at reads
    · cases reads
      exact ⟨_, read, ‹_›⟩
    · cases reads

/-- Valid settings have a base address that has others below it. -/
theorem Settings.based {raw : RawSettings} {settings : Settings}
    (accepted : Settings.ofRaw raw = .ok settings) :
    ∃ authority held, settings.apiBaseUrl.Based authority held := by
  obtain ⟨text, reads, web⟩ := apiBaseUrl_reads accepted
  exact Url.based_of_isHttp reads web

/-- The parts behind a slash are read up to the next one. -/
theorem Path.takeWhile_letters (parts : List (List Char)) :
    (parts.flatMap ('/' :: ·)).takeWhile (· != '/') = [] := by
  cases parts with
  | nil => rfl
  | cons part rest => rfl

/-- Parts without a slash are told apart by the text of their path. -/
theorem Path.letters_inj {first second : List (List Char)} (firstClosed : ∀ part ∈ first, '/' ∉ part)
    (secondClosed : ∀ part ∈ second, '/' ∉ part)
    (same : first.flatMap ('/' :: ·) = second.flatMap ('/' :: ·)) : first = second := by
  have front (part : List Char) (rest : List (List Char)) (closed : '/' ∉ part) :
      (part ++ rest.flatMap ('/' :: ·)).takeWhile (· != '/') = part := by
    rw [List.takeWhile_append_of_pos, takeWhile_letters, List.append_nil]
    intro letter listed
    rw [bne_iff_ne]
    exact fun slash => closed (slash ▸ listed)
  induction first generalizing second with
  | nil =>
      cases second with
      | nil => rfl
      | cons part rest => cases same
  | cons part rest ih =>
      cases second with
      | nil => cases same
      | cons other others =>
          rw [List.forall_mem_cons] at firstClosed secondClosed
          have behind : part ++ rest.flatMap ('/' :: ·) = other ++ others.flatMap ('/' :: ·) := by
            rw [List.flatMap_cons, List.flatMap_cons] at same
            exact (List.cons.inj same).2
          obtain rfl : part = other := by
            rw [← front part rest firstClosed.1, behind, front other others secondClosed.1]
          rw [ih firstClosed.2 secondClosed.2 (List.append_cancel_left behind)]

namespace Url

/-- A URL with another path. -/
def withParts (url : Url) (parts : List (List Char)) : Url :=
  { url with path := .rooted parts }

variable {base : Url} {authority : Authority} {held : List (List Char)}

/-- The address of some segments is the base address with another path. -/
theorem Based.below (based : base.Based authority held) (segments : List String) :
    base.below? segments = some (base.withParts (segments.foldl
      (UrlSegments.append base.isSpecial) (UrlSegments.withoutEmptyEnd held))) := by
  rw [below?, based.path]
  rfl

/-- URLs whose paths differ behind the same parts differ in what a server sees of them. -/
theorem text_inj (known : base.authority = some authority) {front first second : List (List Char)}
    (firstClosed : ∀ part ∈ first, '/' ∉ part) (secondClosed : ∀ part ∈ second, '/' ∉ part)
    (same : (base.withParts (front ++ first)).withoutFragment.text =
      (base.withParts (front ++ second)).withoutFragment.text) : first = second := by
  have written (parts : List (List Char)) : (base.withParts parts).withoutFragment.letters =
      (base.scheme.toList ++ ':' :: '/' :: '/' :: authority.letters) ++
        (parts.flatMap ('/' :: ·) ++ base.query.elim [] ('?' :: ·)) := by
    rw [letters, withoutFragment, withParts, known]
    simp [Path.letters]
  have letters := String.ofList_injective same
  rw [written, written] at letters
  have paths := List.append_cancel_right (List.append_cancel_left letters)
  rw [List.flatMap_append, List.flatMap_append] at paths
  exact Path.letters_inj firstClosed secondClosed (List.append_cancel_left paths)

end Url

/-- Whatever the path of an address is, the same is made of its authority for a request. -/
theorem Http.Request.exists_to (base : Url) (known : base.authority.isSome) :
    ∃ shown : Url, shown.authority.isSome ∧ ∀ parts method headers body,
      (Http.Request.to method (base.withParts parts) headers body).url = shown.withParts parts := by
  cases told : Http.userinfo? base with
  | none =>
      refine ⟨base, known, fun parts method headers body => ?_⟩
      have same : Http.userinfo? (base.withParts parts) = none := told
      rw [Http.Request.to, same]
  | some pair =>
      refine ⟨base.withoutUserinfo, ?_, fun parts method headers body => ?_⟩
      · rw [Url.withoutUserinfo, Option.isSome_map]
        exact known
      · have same : Http.userinfo? (base.withParts parts) = some pair := told
        rw [Http.Request.to, same]
        rfl

namespace Client

variable {base : Url} {authority : Authority} {held : List (List Char)}

/-- The address of some segments is found without a request. -/
theorem endpoint_run (based : base.Based authority held) (segments : List String)
    (work : ClientWork ω) : (endpoint base segments).run work =
      (.ok (base.withParts (segments.foldl (UrlSegments.append base.isSpecial)
        (UrlSegments.withoutEmptyEnd held))), work) := by
  rw [endpoint, based.below]
  rfl

theorem callRequest_url {shown : Url} {parts : List (List Char)}
    (told : ∀ method headers body,
      (Http.Request.to method (base.withParts parts) headers body).url = shown.withParts parts)
    (call : Call) (token : String) :
    (callRequest call (base.withParts parts) token).url = shown.withParts parts := by
  rw [callRequest]
  split
  · exact told _ _ _
  · exact told _ _ _

theorem exists_path (call : Call) : ∃ rest, call.path = "api" :: rest := by
  cases call with
  | federationSettings org => exact ⟨_, rfl⟩
  | connectedOrgConfig settings org => exact ⟨_, rfl⟩
  | updateConnectedOrgConfig settings org config => exact ⟨_, rfl⟩
  | identityProvider settings provider => exact ⟨_, rfl⟩
  | updateIdentityProvider settings provider update => exact ⟨_, rfl⟩
  | projectByName name => exact ⟨_, rfl⟩

/-- Calls with different whole segments are sent to different addresses, whatever their tokens. -/
theorem callRequest_ne (based : base.Based authority held) {first second : Call}
    (firstWhole : ∀ segment ∈ first.path, UrlSegments.Whole segment)
    (secondWhole : ∀ segment ∈ second.path, UrlSegments.Whole segment)
    (different : first.path ≠ second.path) {firstUrl secondUrl : Url}
    (firstFound : base.below? first.path = some firstUrl)
    (secondFound : base.below? second.path = some secondUrl) (firstToken secondToken : String) :
    (callRequest first firstUrl firstToken).url.withoutFragment.text ≠
      (callRequest second secondUrl secondToken).url.withoutFragment.text := by
  obtain ⟨shown, known, told⟩ := Http.Request.exists_to base (by rw [based.authority]; rfl)
  obtain ⟨authority, known⟩ := Option.isSome_iff_exists.mp known
  have path (call : Call) (whole : ∀ segment ∈ call.path, UrlSegments.Whole segment) :
      base.below? call.path = some (base.withParts
        (UrlSegments.unbared (UrlSegments.withoutEmptyEnd held) ++
          call.path.map (UrlSegments.encode base.isSpecial))) := by
    obtain ⟨rest, behind⟩ := exists_path call
    rw [behind] at whole
    rw [based.below, behind, UrlSegments.foldl_whole (by decide) whole]
  have closed (call : Call) : ∀ part ∈ call.path.map (UrlSegments.encode base.isSpecial),
      '/' ∉ part := by
    intro part listed
    obtain ⟨segment, -, rfl⟩ := List.mem_map.mp listed
    exact UrlSegments.encode_closed _ segment '/' (by decide)
  rw [path first firstWhole] at firstFound
  rw [path second secondWhole] at secondFound
  cases firstFound
  cases secondFound
  intro same
  rw [callRequest_url (told _), callRequest_url (told _)] at same
  exact different (UrlSegments.eq_of_map_encode_eq firstWhole secondWhole
    (Url.text_inj known (closed first) (closed second) same))

/-- Every address below the base of valid settings is found, and it differs from the base in its
path only. This is faithful to the segments exactly when they are whole and no part at the root is
lost. Calls with different segments, all of them whole, are sent to different addresses. -/
theorem endpoints_spell_segments {raw : RawSettings} {settings : Settings}
    (accepted : Settings.ofRaw raw = .ok settings) :
    ∃ held, settings.apiBaseUrl.path = .rooted held ∧
      (∀ segments, ∃ path,
        (∀ work : ClientWork ω, (endpoint settings.apiBaseUrl segments).run work =
          (.ok (settings.apiBaseUrl.withParts path), work)) ∧
        (UrlSegments.Faithful (UrlSegments.withoutLastEmpty held) segments path ↔
          (∀ segment ∈ segments, UrlSegments.Whole segment) ∧
            ¬UrlSegments.LosesRoot (UrlSegments.withoutLastEmpty held) segments)) ∧
      ∀ first second : Call, (∀ segment ∈ first.path, UrlSegments.Whole segment) →
        (∀ segment ∈ second.path, UrlSegments.Whole segment) → first.path ≠ second.path →
        ∀ work : ClientWork ω, ∃ firstUrl secondUrl,
          (endpoint settings.apiBaseUrl first.path).run work = (.ok firstUrl, work) ∧
          (endpoint settings.apiBaseUrl second.path).run work = (.ok secondUrl, work) ∧
          ∀ firstToken secondToken,
            (callRequest first firstUrl firstToken).url.withoutFragment.text ≠
              (callRequest second secondUrl secondToken).url.withoutFragment.text := by
  obtain ⟨authority, held, based⟩ := Settings.based accepted
  refine ⟨held, based.path, fun segments => ⟨_, endpoint_run based segments,
    UrlSegments.faithful_iff based.filled segments⟩, ?_⟩
  intro first second firstWhole secondWhole different work
  exact ⟨_, _, endpoint_run based first.path work, endpoint_run based second.path work,
    callRequest_ne based firstWhole secondWhole different (based.below first.path)
      (based.below second.path)⟩

/-- The base address of the settings that are given by default. -/
def standardUrl : Url :=
  ⟨"https", some ⟨[], .name "cloud.mongodb.com".toList, none⟩, .rooted [[]], none, none⟩

theorem standard_accepted : ∃ settings, Settings.ofRaw .standard = .ok settings ∧
    settings.apiBaseUrl = standardUrl :=
  Json.exists_ok_of_seen (by decide +kernel)

/-- A name with a space and a slash has a part of its own, which tells it from another name. -/
theorem endpoints_spell_segments_standard : ∃ settings, Settings.ofRaw .standard = .ok settings ∧
    (∃ path, (∀ work : ClientWork Http.Script,
      (endpoint settings.apiBaseUrl (Call.projectByName "team a/b").path).run work =
        (.ok (settings.apiBaseUrl.withParts path), work)) ∧
      UrlSegments.Faithful [] (Call.projectByName "team a/b").path path) ∧
    ∀ work : ClientWork Http.Script, ∃ firstUrl secondUrl,
      (endpoint settings.apiBaseUrl (Call.projectByName "team a/b").path).run work =
        (.ok firstUrl, work) ∧
      (endpoint settings.apiBaseUrl (Call.projectByName "team a").path).run work =
        (.ok secondUrl, work) ∧
      ∀ firstToken secondToken,
        (callRequest (.projectByName "team a/b") firstUrl firstToken).url.withoutFragment.text ≠
          (callRequest (.projectByName "team a") secondUrl secondToken).url.withoutFragment.text := by
  obtain ⟨settings, accepted, base⟩ := standard_accepted
  obtain ⟨held, path, below, apart⟩ := @endpoints_spell_segments Http.Script _ _ accepted
  have bare : held = [[]] := by
    rw [base] at path
    exact (Path.rooted.inj path).symm
  subst held
  have whole : ∀ segment ∈ (Call.projectByName "team a/b").path, UrlSegments.Whole segment := by
    simp [Call.path, UrlSegments.whole_iff, UrlReader.isIgnored]
  have other : ∀ segment ∈ (Call.projectByName "team a").path, UrlSegments.Whole segment := by
    simp [Call.path, UrlSegments.whole_iff, UrlReader.isIgnored]
  obtain ⟨path, found, faithful⟩ := below (Call.projectByName "team a/b").path
  exact ⟨settings, accepted, ⟨path, found, faithful.mpr
    ⟨whole, UrlSegments.not_losesRoot_bare (by decide) _⟩⟩,
    apart (.projectByName "team a/b") (.projectByName "team a") whole other (by simp [Call.path])⟩

/-- A name of dots has no part of its own, and a tab does not tell names apart. -/
theorem project_names_run_together : ∃ settings, Settings.ofRaw .standard = .ok settings ∧
    (∃ path, settings.apiBaseUrl.below? (Call.projectByName "..").path =
        some (settings.apiBaseUrl.withParts path) ∧
      ¬UrlSegments.Faithful [] (Call.projectByName "..").path path) ∧
    settings.apiBaseUrl.below? (Call.projectByName "pay\troll").path =
      settings.apiBaseUrl.below? (Call.projectByName "payroll").path := by
  obtain ⟨settings, accepted, base⟩ := standard_accepted
  have based : standardUrl.Based _ [[]] := ⟨rfl, rfl, List.cons_ne_nil _ _⟩
  refine ⟨settings, accepted, ?_⟩
  rw [base]
  refine ⟨⟨_, based.below _, fun faithful => ?_⟩, ?_⟩
  · have whole := ((UrlSegments.faithful_iff based.filled _).mp faithful).1 ".." (by simp [Call.path])
    exact whole.notDots rfl
  · have last (path : List (List Char)) :
        UrlSegments.append standardUrl.isSpecial path "pay\troll" =
          UrlSegments.append standardUrl.isSpecial path "payroll" :=
      UrlSegments.append_congr _ path (by decide) (by decide) (by decide)
    rw [based.below, based.below, Call.path, Call.path]
    simp only [List.foldl_cons, List.foldl_nil, last]

end Client

end OrgFederation
