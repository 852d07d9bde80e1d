import OrgFederation.Proofs.Url.Percent
import OrgFederation.Url.Endpoint
import Mathlib.Data.List.Forall2

namespace OrgFederation

open Text (Symbol)

/-- Dots are decoded to dots, however they are written. -/
theorem UrlReader.decode_dots {letters : List Char} {count : Nat}
    (counted : UrlReader.dots letters = some count) :
    Percent.decode letters = List.replicate count (some '.') := by
  have dot : String.utf8EncodeChar '.' = [46] := rfl
  have bytes : Percent.decodeBytes (letters.flatMap String.utf8EncodeChar) =
      (List.replicate count '.').flatMap String.utf8EncodeChar := by
    induction letters using UrlReader.dots.induct generalizing count with
    | case1 =>
        cases counted
        rfl
    | case2 rest ih =>
        rw [UrlReader.dots, Option.map_eq_some_iff] at counted
        obtain ⟨behind, counted, rfl⟩ := counted
        rw [List.flatMap_cons, dot, List.singleton_append, Percent.decodeBytes_plain (by decide),
          ih counted, List.replicate_succ, List.flatMap_cons, dot, List.singleton_append]
    | case3 rest ih | case4 rest ih =>
        rw [UrlReader.dots, Option.map_eq_some_iff] at counted
        obtain ⟨behind, counted, rfl⟩ := counted
        change 46 :: Percent.decodeBytes (rest.flatMap String.utf8EncodeChar) = _
        rw [ih counted]
        rfl
    | case5 letters filled plain lower upper =>
        rw [UrlReader.dots.eq_5 letters filled plain lower upper] at counted
        cases counted
  rw [Percent.decode, Text.Utf8.encode_ofList, bytes, Text.Utf8.symbols_flatMap,
    List.map_replicate]

namespace UrlSegments

variable {special : Bool}

/-- An encoded segment is decoded to the characters that are not dropped. -/
theorem decode_encode (special : Bool) (segment : String) :
    Percent.decode (encode special segment) =
      (segment.toList.filter fun letter => !UrlReader.isIgnored letter).map some := by
  refine Percent.decode_encode ?_ _
  cases special <;> decide

/-- A segment is put behind a path as a whole unless it is a dot segment or loses characters. -/
structure Whole (segment : String) : Prop where
  notDot : segment ≠ "."
  notDots : segment ≠ ".."
  unignored : ∀ letter ∈ segment.toList, UrlReader.isIgnored letter = false

theorem whole_iff {segment : String} : Whole segment ↔ segment ≠ "." ∧ segment ≠ ".." ∧
    ∀ letter ∈ segment.toList, UrlReader.isIgnored letter = false :=
  ⟨fun whole => ⟨whole.notDot, whole.notDots, whole.unignored⟩,
    fun parts => ⟨parts.1, parts.2.1, parts.2.2⟩⟩

/-- The characters that end a part of a path. -/
def separators : List Char := ['/', '?', '#']

/-- A part of a path spells the segment that it is decoded to. -/
structure Spells (part : List Char) (segment : String) : Prop where
  decoded : Percent.decode part = segment.toList.map some
  closed : ∀ separator ∈ separators, separator ∉ part

/-- Nothing but the empty segment is spelled by nothing. -/
theorem eq_empty_of_spells_nil {segment : String} (spells : Spells [] segment) : segment = "" := by
  have nothing : Percent.decode [] = [] := by
    rw [Percent.decode, Text.Utf8.encode_ofList]
    rfl
  have decoded := spells.decoded
  rwa [nothing, eq_comm, List.map_eq_nil_iff, String.toList_eq_nil_iff] at decoded

/-- A part spells one segment at most. -/
theorem Spells.unique {part : List Char} {first second : String} (spells : Spells part first)
    (other : Spells part second) : first = second := by
  have same : first.toList.map some = second.toList.map some :=
    spells.decoded.symm.trans other.decoded
  exact String.toList_inj.mp (List.map_inj_right (fun _ _ => Option.some.inj) |>.mp same)

/-- No separator is left in an encoded segment. -/
theorem encode_closed (special : Bool) (segment : String) :
    ∀ separator ∈ separators, separator ∉ encode special segment := by
  intro separator listed
  rw [separators, List.mem_cons, List.mem_cons, List.mem_singleton] at listed
  rcases listed with rfl | rfl | rfl <;> cases special <;>
    exact Percent.notMem_encode rfl (by decide) rfl _

/-- An encoded segment spells itself exactly when it loses no characters. -/
theorem spells_encode_iff {segment : String} : Spells (encode special segment) segment ↔
    ∀ letter ∈ segment.toList, UrlReader.isIgnored letter = false := by
  have decoded : Percent.decode (encode special segment) = segment.toList.map some ↔
      ∀ letter ∈ segment.toList, UrlReader.isIgnored letter = false := by
    rw [decode_encode, List.map_inj_right (fun _ _ => Option.some.inj), List.filter_eq_self]
    simp
  exact ⟨fun spells => decoded.mp spells.decoded,
    fun unignored => ⟨decoded.mpr unignored, encode_closed special segment⟩⟩

/-- A whole segment is spelled by its encoding. -/
theorem Whole.spells {segment : String} (whole : Whole segment) (special : Bool) :
    Spells (encode special segment) segment :=
  spells_encode_iff.mpr whole.unignored

/-- A segment is as many dots as its encoding is. -/
theorem eq_dots_of_spells {segment : String} {count : Nat}
    (spells : Spells (encode special segment) segment)
    (counted : UrlReader.dots (encode special segment) = some count) :
    segment = String.ofList (List.replicate count '.') := by
  have same := spells.decoded.symm.trans (UrlReader.decode_dots counted)
  rw [← List.map_replicate, List.map_inj_right (fun _ _ => Option.some.inj)] at same
  rw [← same, String.ofList_toList]

/-- The segments of a path that others are put behind. -/
def unbared (path : List (List Char)) : List (List Char) :=
  if isBare path then [] else path

/-- A path that is longer than a bare root is put in front as it is. -/
theorem unbared_append (path : List (List Char)) {part : List Char}
    (longer : path ≠ [] ∨ part ≠ []) : unbared (path ++ [part]) = path ++ [part] := by
  rw [unbared, if_neg]
  rw [isBare, beq_iff_eq]
  cases path with
  | nil => simpa using longer
  | cons first rest => simp

/-- A part that is no dot segment becomes the last one of a path. -/
theorem resolveDots_part (path : List (List Char)) {part : List Char}
    (one : UrlReader.dots part ≠ some 1) (two : UrlReader.dots part ≠ some 2) :
    UrlReader.resolveDots path [part] = path ++ [part] := by
  unfold UrlReader.resolveDots
  cases counted : UrlReader.dots part with
  | none => rfl
  | some count =>
      rcases count with - | - | - | count
      · rfl
      · exact absurd counted one
      · exact absurd counted two
      · rfl

/-- A dot segment leaves an empty part, perhaps in the place of another. -/
theorem resolveDots_dots (path : List (List Char)) {part : List Char}
    (dots : UrlReader.dots part = some 1 ∨ UrlReader.dots part = some 2) :
    UrlReader.resolveDots path [part] = path ++ [[]] ∨
      UrlReader.resolveDots path [part] = UrlReader.shorten path ++ [[]] := by
  rcases dots with one | two
  · left
    unfold UrlReader.resolveDots
    rw [one]
    rfl
  · right
    unfold UrlReader.resolveDots
    rw [two]
    rfl

/-- A path is shortened by one part, or it is left as it is. -/
theorem shorten_cases (path : List (List Char)) :
    UrlReader.shorten path = path ∨ (UrlReader.shorten path).length < path.length := by
  unfold UrlReader.shorten
  cases last : path.getLast? with
  | none => exact .inl (List.getLast?_eq_none_iff.mp last).symm
  | some part =>
      have filled : path ≠ [] := by
        rintro rfl
        cases last
      dsimp only
      split
      · exact .inl rfl
      · refine .inr ?_
        rw [List.length_dropLast]
        exact Nat.sub_lt (List.length_pos_iff.mpr filled) Nat.one_pos

/-- A whole segment becomes the last part of a path. -/
theorem append_whole (path : List (List Char)) {segment : String} (whole : Whole segment) :
    append special path segment = unbared path ++ [encode special segment] := by
  rw [append, if_neg (not_or.mpr ⟨whole.notDot, whole.notDots⟩)]
  change UrlReader.resolveDots (unbared path) [encode special segment] = _
  refine resolveDots_part _ (fun one => ?_) (fun two => ?_)
  · exact whole.notDot (eq_dots_of_spells (whole.spells special) one)
  · exact whole.notDots (eq_dots_of_spells (whole.spells special) two)

/-- Segments that differ only in the characters they lose are put behind a path alike. -/
theorem append_congr (special : Bool) (path : List (List Char)) {first second : String}
    (firstKept : ¬(first = "." ∨ first = "..")) (secondKept : ¬(second = "." ∨ second = ".."))
    (same : (first.toList.filter fun letter => !UrlReader.isIgnored letter) =
      second.toList.filter fun letter => !UrlReader.isIgnored letter) :
    append special path first = append special path second := by
  rw [append, append, if_neg firstKept, if_neg secondKept, encode, encode, same]

/-- The number of the parts that others are put behind. -/
def size (path : List (List Char)) : Nat :=
  (unbared path).length

theorem size_le (path : List (List Char)) : size path ≤ path.length := by
  rw [size, unbared]
  split
  · exact Nat.zero_le _
  · exact Nat.le_refl _

/-- A path that counts in full is put in front as it is. -/
theorem unbared_eq_of_size {path : List (List Char)} (full : size path = path.length) :
    unbared path = path := by
  rw [size, unbared] at full
  rw [unbared]
  split at full
  · rw [if_pos ‹_›]
    exact (List.length_eq_zero_iff.mp full.symm).symm
  · rw [if_neg ‹_›]

/-- A path grows by one part at most. -/
theorem size_append_le (path : List (List Char)) (segment : String) :
    size (append special path segment) ≤ size path + 1 := by
  rw [append]
  split
  · exact Nat.le_succ _
  change size (UrlReader.resolveDots (unbared path) [encode special segment]) ≤ _
  refine Nat.le_trans (size_le _) ?_
  by_cases dots : UrlReader.dots (encode special segment) = some 1 ∨
      UrlReader.dots (encode special segment) = some 2
  · rcases resolveDots_dots (unbared path) dots with left | left
    · rw [left, List.length_append]
      exact Nat.le_refl _
    · rw [left, List.length_append]
      rcases shorten_cases (unbared path) with kept | shorter
      · rw [kept]
        exact Nat.le_refl _
      · exact Nat.succ_le_succ (Nat.le_of_lt shorter)
  · rw [not_or] at dots
    rw [resolveDots_part _ dots.1 dots.2, List.length_append]
    exact Nat.le_refl _

/-- What a path grows by is no segment unless it is a whole one. -/
theorem append_grown {path : List (List Char)} {segment : String}
    (grown : size (append special path segment) = size path + 1) :
    ∃ part, append special path segment = unbared path ++ [part] ∧
      (Spells part segment → Whole segment) := by
  rw [append] at grown ⊢
  split at grown
  · exact absurd grown (Nat.ne_of_lt (Nat.lt_succ_self _))
  rename_i notDots
  rw [if_neg notDots]
  rw [not_or] at notDots
  change size (UrlReader.resolveDots (unbared path) [encode special segment]) = _ at grown
  change ∃ part, UrlReader.resolveDots (unbared path) [encode special segment] = _ ∧ _
  by_cases dots : UrlReader.dots (encode special segment) = some 1 ∨
      UrlReader.dots (encode special segment) = some 2
  · have empty : Spells [] segment → Whole segment := by
      intro spells
      obtain rfl := eq_empty_of_spells_nil spells
      have none : UrlReader.dots (encode special "") = some 0 := rfl
      rw [none] at dots
      rcases dots with one | two
      · cases one
      · cases two
    rcases resolveDots_dots (unbared path) dots with left | left
    · exact ⟨[], left, empty⟩
    · rcases shorten_cases (unbared path) with kept | shorter
      · exact ⟨[], left.trans (by rw [kept]), empty⟩
      · -- a path that loses a part to an empty one has not grown
        have few := size_le (UrlReader.shorten (unbared path) ++ [[]])
        rw [List.length_append, ← left, grown] at few
        exact absurd (Nat.le_of_succ_le_succ few) (Nat.not_le_of_lt shorter)
  · rw [not_or] at dots
    exact ⟨encode special segment, resolveDots_part _ dots.1 dots.2,
      fun spells => ⟨notDots.1, notDots.2, spells_encode_iff.mp spells⟩⟩

theorem size_foldl_le (special : Bool) (segments : List String) (path : List (List Char)) :
    size (segments.foldl (append special) path) ≤ size path + segments.length := by
  induction segments generalizing path with
  | nil => exact Nat.le_refl _
  | cons segment rest ih =>
      rw [List.foldl_cons, List.length_cons]
      have front : size (append special path segment) ≤ size path + 1 := size_append_le path segment
      have back := ih (append special path segment)
      omega

/-- When a path grows with every segment, each of them has a part of its own, which is no segment
unless it is a whole one. -/
theorem foldl_grown {segments : List String} {path : List (List Char)}
    (grown : size (segments.foldl (append special) path) = size path + segments.length) :
    ∃ parts, unbared (segments.foldl (append special) path) = unbared path ++ parts ∧
      List.Forall₂ (fun part segment => Spells part segment → Whole segment) parts segments := by
  induction segments generalizing path with
  | nil => exact ⟨[], (List.append_nil _).symm, .nil⟩
  | cons segment rest ih =>
      rw [List.foldl_cons, List.length_cons] at grown
      have front : size (append special path segment) ≤ size path + 1 := size_append_le path segment
      have back := size_foldl_le special rest (append special path segment)
      have step : size (append special path segment) = size path + 1 := by omega
      obtain ⟨part, appended, own⟩ := append_grown step
      have more : size (rest.foldl (append special) (append special path segment)) =
          size (append special path segment) + rest.length := by omega
      obtain ⟨parts, behind, others⟩ := ih more
      have full : unbared (append special path segment) = unbared path ++ [part] := by
        rw [appended]
        refine unbared_eq_of_size ?_
        rw [List.length_append, ← appended, step]
        rfl
      refine ⟨part :: parts, ?_, .cons own others⟩
      rw [List.foldl_cons, behind, full, List.append_assoc, List.singleton_append]

/-- Whole segments follow a path that is longer than a bare root. -/
theorem foldl_plain {segments : List String} (whole : ∀ segment ∈ segments, Whole segment)
    {path : List (List Char)} (filled : path ≠ []) (plain : unbared path = path) :
    segments.foldl (append special) path = path ++ segments.map (encode special) := by
  induction segments generalizing path with
  | nil => exact (List.append_nil _).symm
  | cons segment rest ih =>
      rw [List.forall_mem_cons] at whole
      rw [List.foldl_cons, append_whole _ whole.1, plain, List.map_cons,
        ih whole.2 (List.append_ne_nil_of_left_ne_nil filled _) (unbared_append _ (.inl filled)),
        List.append_assoc, List.singleton_append]

/-- Whole segments follow any path if the first of them is not empty. -/
theorem foldl_whole {first : String} {rest : List String} (filled : first ≠ "")
    (whole : ∀ segment ∈ first :: rest, Whole segment) (path : List (List Char)) :
    (first :: rest).foldl (append special) path =
      unbared path ++ (first :: rest).map (encode special) := by
  rw [List.forall_mem_cons] at whole
  have written : encode special first ≠ [] := by
    intro nothing
    have spells := whole.1.spells special
    rw [nothing] at spells
    exact filled (eq_empty_of_spells_nil spells)
  rw [List.foldl_cons, append_whole _ whole.1,
    foldl_plain whole.2 (List.append_ne_nil_of_right_ne_nil _ (List.cons_ne_nil _ _))
      (unbared_append _ (.inr written)),
    List.append_assoc, List.singleton_append, List.map_cons]

/-- The parts of a path without an empty one at the end. -/
def withoutLastEmpty (held : List (List Char)) : List (List Char) :=
  if held.getLast? = some [] then held.dropLast else held

/-- A path has at least one part. -/
def grounded : List (List Char) → List (List Char)
  | [] => [[]]
  | part :: rest => part :: rest

theorem grounded_of_ne_nil {path : List (List Char)} (filled : path ≠ []) :
    grounded path = path := by
  cases path with
  | nil => exact absurd rfl filled
  | cons => rfl

theorem unbared_grounded (path : List (List Char)) : unbared (grounded path) = unbared path := by
  cases path <;> rfl

/-- An empty part at the end is dropped from any path, since a path has at least one part. -/
theorem withoutEmptyEnd_eq {held : List (List Char)} (filled : held ≠ []) :
    withoutEmptyEnd held = grounded (withoutLastEmpty held) := by
  rw [withoutEmptyEnd, withoutLastEmpty]
  by_cases bare : held = [[]]
  · subst held
    rfl
  have notBare : isBare held = false := by
    rw [isBare, beq_eq_false_iff_ne]
    exact bare
  simp only [notBare, Bool.not_false, Bool.true_and, beq_iff_eq]
  split
  · rename_i last
    refine (grounded_of_ne_nil fun single => bare ?_).symm
    rw [← List.dropLast_append_getLast? _ last, single]
    rfl
  · exact (grounded_of_ne_nil filled).symm

/-- A path is faithful to some segments behind another when it goes on with a part for each of
them. -/
def Faithful (lead : List (List Char)) (segments : List String) (path : List (List Char)) : Prop :=
  ∃ parts, path = grounded (lead ++ parts) ∧ List.Forall₂ Spells parts segments

/-- An empty part at the root is lost to what follows it. -/
inductive LosesRoot : List (List Char) → List String → Prop
  | held {segments : List String} (some : segments ≠ []) : LosesRoot [[]] segments
  | given (next : String) (rest : List String) : LosesRoot [] ("" :: next :: rest)

/-- The empty segment is whole. -/
theorem whole_empty : Whole "" where
  notDot := by decide
  notDots := by decide
  unignored := by simp

theorem forall_whole {parts : List (List Char)} {segments : List String}
    (own : List.Forall₂ (fun part segment => Spells part segment → Whole segment) parts segments)
    (spelled : List.Forall₂ Spells parts segments) : ∀ segment ∈ segments, Whole segment := by
  induction own with
  | nil => exact List.forall_mem_nil _
  | cons whole _ ih =>
      cases spelled with
      | cons spells rest => exact List.forall_mem_cons.mpr ⟨whole spells, ih rest⟩

/-- A path that grows with every segment has lost none. -/
theorem not_losesRoot {lead : List (List Char)} {segments : List String}
    (plain : unbared lead = lead)
    (grown : size (segments.foldl (append special) (grounded lead)) =
      size (grounded lead) + segments.length) : ¬LosesRoot lead segments := by
  intro loses
  cases loses with
  | held => cases plain
  | given next rest =>
      have most := size_foldl_le special (next :: rest) [[]]
      have root : append special [[]] "" = [[]] := append_whole [[]] whole_empty
      rw [grounded, List.foldl_cons, root] at grown
      rw [grown, List.length_cons] at most
      exact absurd most (Nat.not_succ_le_self _)

/-- A first segment that is not empty loses no part at a bare root. -/
theorem not_losesRoot_bare {first : String} (filled : first ≠ "") (rest : List String) :
    ¬LosesRoot [] (first :: rest) := by
  intro loses
  cases loses with
  | given next rest => exact filled rfl

/-- Segments are put behind a path faithfully only when they are whole and no part is lost. -/
theorem whole_of_faithful {lead : List (List Char)} {segments : List String}
    (faithful : Faithful lead segments (segments.foldl (append special) (grounded lead))) :
    (∀ segment ∈ segments, Whole segment) ∧ ¬LosesRoot lead segments := by
  obtain ⟨parts, path, spelled⟩ := faithful
  have count := spelled.length_eq
  have left : unbared (segments.foldl (append special) (grounded lead)) =
      unbared (lead ++ parts) := by
    rw [path, unbared_grounded]
  have start : size (grounded lead) = size lead := by rw [size, unbared_grounded, size]
  have most := size_foldl_le special segments (grounded lead)
  by_cases full : unbared (lead ++ parts) = lead ++ parts
  · rw [full] at left
    have long : size (segments.foldl (append special) (grounded lead)) =
        lead.length + parts.length := by
      rw [size, left, List.length_append]
    have few := size_le lead
    have plain : unbared lead = lead := unbared_eq_of_size (by omega)
    have grown : size (segments.foldl (append special) (grounded lead)) =
        size (grounded lead) + segments.length := by omega
    obtain ⟨others, same, own⟩ := foldl_grown grown
    rw [unbared_grounded, plain, left] at same
    obtain rfl := List.append_cancel_left same
    exact ⟨forall_whole own spelled, not_losesRoot plain grown⟩
  · -- what is left is a bare root, so that there is no segment or just an empty one
    have bare : lead ++ parts = [[]] := by
      by_contra filled
      refine full ?_
      rw [unbared, if_neg]
      rwa [isBare, beq_iff_eq]
    rcases List.append_eq_singleton_iff.mp bare with ⟨rfl, rfl⟩ | ⟨rfl, rfl⟩
    · obtain ⟨segment, rest, spells, none, rfl⟩ := List.forall₂_cons_left_iff.mp spelled
      obtain rfl := List.forall₂_nil_left_iff.mp none
      obtain rfl := eq_empty_of_spells_nil spells
      refine ⟨by simpa using whole_empty, fun loses => ?_⟩
      cases loses
    · obtain rfl := List.forall₂_nil_left_iff.mp spelled
      refine ⟨List.forall_mem_nil _, fun loses => ?_⟩
      cases loses with
      | held some => exact some rfl

/-- Whole segments are spelled by their encodings. -/
theorem spelled_of_whole (special : Bool) {segments : List String}
    (whole : ∀ segment ∈ segments, Whole segment) :
    List.Forall₂ Spells (segments.map (encode special)) segments := by
  rw [List.forall₂_map_left_iff, List.forall₂_same]
  exact fun segment listed => (whole segment listed).spells special

/-- Different whole segments have different encodings. -/
theorem eq_of_map_encode_eq {first second : List String}
    (firstWhole : ∀ segment ∈ first, Whole segment)
    (secondWhole : ∀ segment ∈ second, Whole segment)
    (same : first.map (encode special) = second.map (encode special)) : first = second := by
  have spelled := spelled_of_whole special firstWhole
  rw [same] at spelled
  have unique : Relator.RightUnique Spells := fun _ _ _ => Spells.unique
  exact List.right_unique_forall₂' unique spelled (spelled_of_whole special secondWhole)

/-- Segments are put behind a path faithfully when they are whole and no part is lost. -/
theorem faithful_of_whole {lead : List (List Char)} {segments : List String}
    (whole : ∀ segment ∈ segments, Whole segment) (keeps : ¬LosesRoot lead segments) :
    Faithful lead segments (segments.foldl (append special) (grounded lead)) := by
  refine ⟨segments.map (encode special), ?_, spelled_of_whole special whole⟩
  cases segments with
  | nil => rw [List.map_nil, List.append_nil, List.foldl_nil]
  | cons first rest =>
      have plain : unbared lead = lead := by
        rw [unbared, if_neg]
        rw [isBare, beq_iff_eq]
        rintro rfl
        exact keeps (.held (List.cons_ne_nil _ _))
      by_cases empty : lead = [] ∧ first = ""
      · obtain ⟨rfl, rfl⟩ := empty
        cases rest with
        | nil => exact append_whole [[]] whole_empty
        | cons next rest => exact absurd (.given next rest) keeps
      · have filled : lead ++ (first :: rest).map (encode special) ≠ [] :=
          List.append_ne_nil_of_right_ne_nil _ (List.cons_ne_nil _ _)
        rw [grounded_of_ne_nil filled]
        by_cases nothing : first = ""
        · have some : lead ≠ [] := fun none => empty ⟨none, nothing⟩
          rw [grounded_of_ne_nil some, foldl_plain whole some plain]
        · rw [foldl_whole nothing whole, unbared_grounded, plain]

/-- Segments are put behind a path, less an empty part at its end, faithfully exactly when they are
whole and no part is lost. -/
theorem faithful_iff {held : List (List Char)} (filled : held ≠ []) (segments : List String) :
    Faithful (withoutLastEmpty held) segments
      (segments.foldl (append special) (withoutEmptyEnd held)) ↔
    (∀ segment ∈ segments, Whole segment) ∧ ¬LosesRoot (withoutLastEmpty held) segments := by
  rw [withoutEmptyEnd_eq filled]
  exact ⟨whole_of_faithful, fun kept => faithful_of_whole kept.1 kept.2⟩

end UrlSegments

end OrgFederation
