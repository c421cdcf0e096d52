import Mathlib.Data.List.DropRight
import Syndication.Proofs.Url.RoundTrip

/-!
# Where the name of an endpoint lands

The name of an endpoint is written behind the text of a base address, less the slashes at the end of
that text. So it belongs to the last part of the text: to the path only if there is neither a query
nor a fragment behind it. In each case the text that comes about is that of a written address, and
reading it finds the name there.
-/

namespace Syndication.Url

/-! ## Slashes at the end -/

/-- What is in front stays if its own end does. -/
theorem rdropWhile_append_of_kept {α : Type} {drops : α → Bool} {front : List α}
    (kept : front.rdropWhile drops = front) (part : List α) :
    (front ++ part).rdropWhile drops = front ++ part.rdropWhile drops := by
  induction part using List.reverseRecOn with
  | nil => rw [List.append_nil, kept, List.rdropWhile_nil, List.append_nil]
  | append_singleton part last inductionHypothesis =>
    rw [← List.append_assoc, List.rdropWhile_concat, List.rdropWhile_concat]
    split
    · exact inductionHypothesis
    · rw [List.append_assoc]

/-- Dropping slashes from the end of a text as a list. -/
theorem toList_withoutEndSlashes (text : String) :
    (withoutEndSlashes text).toList = text.toList.rdropWhile fun character => character = '/' :=
  String.toList_ofList

/-- A text is empty or has a last character. -/
theorem empty_or_ends (text : String) :
    text = "" ∨ ∃ before last, text.toList = before ++ [last] := by
  rcases List.eq_nil_or_concat text.toList with nothing | ⟨before, last, something⟩
  · exact .inl (String.toList_eq_nil_iff.mp nothing)
  · exact .inr ⟨before, last, something.trans List.concat_eq_append⟩

/-- A text that does not end in a slash stays as it is. -/
theorem withoutEndSlashes_of_end {text : String} {before : List Char} {last : Char}
    (ends : text.toList = before ++ [last]) (different : last ≠ '/') :
    withoutEndSlashes text = text := by
  apply String.toList_injective
  rw [toList_withoutEndSlashes, ends]
  exact List.rdropWhile_concat_neg _ _ _ (by simpa using different)

/-- Slashes are dropped from the part behind a text that does not end in one. -/
theorem withoutEndSlashes_append {front : String} {before : List Char} {last : Char}
    (ends : front.toList = before ++ [last]) (different : last ≠ '/') (part : String) :
    withoutEndSlashes (front ++ part) = front ++ withoutEndSlashes part := by
  have kept : front.toList.rdropWhile (fun character => character = '/') = front.toList := by
    rw [← toList_withoutEndSlashes, withoutEndSlashes_of_end ends different]
  apply String.toList_injective
  rw [String.toList_append, toList_withoutEndSlashes, toList_withoutEndSlashes,
    String.toList_append, rdropWhile_append_of_kept kept]

/-- Dropping slashes from the end takes characters away and adds none. -/
theorem mem_of_withoutEndSlashes {text : String} {character : Char}
    (member : character ∈ (withoutEndSlashes text).toList) : character ∈ text.toList := by
  rw [toList_withoutEndSlashes] at member
  exact (List.rdropWhile_prefix _ _).subset member

/-! ## Paths -/

/-- The path with a name in place of the slashes at its end. -/
def Path.below (name : String) : Path → Path
  | .segments names => .segments (names.rdropWhile String.isEmpty ++ [name])
  | .plain text => .plain (withoutEndSlashes text ++ "/" ++ name)

/-- A path is written one segment after the other. -/
theorem Path.text_concat (names : List String) (last : String) :
    (Path.segments (names ++ [last])).text = (Path.segments names).text ++ "/" ++ last := by
  simp [Path.text, String.append_assoc]

/-- Dropping slashes from the end of a path drops its last segments as far as they are empty.

Induct over the segments from their end. An empty one adds a slash and nothing else; any other one
ends in a character that is no slash. -/
theorem withoutEndSlashes_path {names : List String}
    (undivided : ∀ name ∈ names, '/' ∉ name.toList) :
    withoutEndSlashes (Path.segments names).text =
      (Path.segments (names.rdropWhile String.isEmpty)).text := by
  apply String.toList_injective
  rw [toList_withoutEndSlashes]
  induction names using List.reverseRecOn with
  | nil => rfl
  | append_singleton names last inductionHypothesis =>
    rw [List.forall_mem_append, List.forall_mem_singleton] at undivided
    rw [List.rdropWhile_concat, Path.text_concat, String.toList_append, String.toList_append]
    rcases empty_or_ends last with rfl | ⟨before, character, ends⟩
    · have empty : "".isEmpty = true := rfl
      rw [if_pos empty, ← inductionHypothesis undivided.1, String.toList_empty, List.append_nil]
      exact List.rdropWhile_concat_pos _ _ _ (by decide)
    · have proper : ¬ last.isEmpty = true := by
        rintro empty
        simp [String.isEmpty_iff.mp empty] at ends
      have different : character ≠ '/' := by
        rintro rfl
        exact undivided.2 (ends ▸ List.mem_concat_self)
      rw [if_neg proper, Path.text_concat, String.toList_append, String.toList_append, ends,
        ← List.append_assoc]
      exact List.rdropWhile_concat_neg _ _ _ (by simpa using different)

/-- The text of a path with a name below it. -/
theorem Path.text_below {path : Path} (written : path.IsWritten) (name : String) :
    (path.below name).text = withoutEndSlashes path.text ++ "/" ++ name := by
  obtain ⟨nonempty, segments⟩ := written
  rw [Path.below, Path.text_concat, withoutEndSlashes_path]
  exact fun name member inside => ((segments name member).undivided '/' inside).1 rfl

/-- A path with a name below it is written if the name is. -/
theorem Path.IsWritten.below {path : Path} (written : path.IsWritten) {name : String}
    (segment : IsSegment name) : (path.below name).IsWritten := by
  obtain ⟨nonempty, segments⟩ := written
  refine .segments (by simp) (List.forall_mem_append.mpr ⟨fun other member => ?_, by simpa⟩)
  exact segments other ((List.rdropWhile_prefix _ _).subset member)

/-- No path is its own text with a proper name behind it. -/
theorem text_ne_below (text : String) {name : String} (undivided : '/' ∉ name.toList)
    (proper : name ≠ "") :
    text ≠ withoutEndSlashes text ++ "/" ++ name := by
  intro same
  rcases empty_or_ends name with rfl | ⟨before, character, ends⟩
  · exact proper rfl
  have different : character ≠ '/' := by
    rintro rfl
    exact undivided (ends ▸ List.mem_concat_self)
  -- The text ends as the name does, so there are no slashes to drop from it.
  have endsToo : text.toList =
      ((withoutEndSlashes text ++ "/").toList ++ before) ++ [character] := by
    rw [List.append_assoc, ← ends, ← String.toList_append, ← same]
  have kept : withoutEndSlashes text = text := withoutEndSlashes_of_end endsToo different
  rw [kept] at same
  have lengths := congrArg String.length same
  simp only [String.length_append] at lengths
  have slash : "/".length = 1 := rfl
  omega

/-! ## Addresses -/

/-- A name that can be written behind any part of an address. -/
structure IsEndpointName (name : String) : Prop extends IsSegment name where
  proper : name ≠ ""
  inQuery : ∀ character ∈ name.toList, isEscapedInQuery true character = false

/-- The address with a name written behind the last of its parts. -/
def extended (base : Url) (name : String) : Url :=
  match base.fragment with
  | some fragment => { base with fragment := some (withoutEndSlashes fragment ++ "/" ++ name) }
  | none =>
    match base.query with
    | some query => { base with query := some (withoutEndSlashes query ++ "/" ++ name) }
    | none => { base with path := base.path.below name }

/-- Nothing has to be escaped in a part with a name behind it if nothing has to be in either. -/
theorem kept_behind {mustEscape : Char → Bool} (slash : mustEscape '/' = false) {part name : String}
    (inPart : ∀ character ∈ part.toList, mustEscape character = false)
    (inName : ∀ character ∈ name.toList, mustEscape character = false) :
    ∀ character ∈ (withoutEndSlashes part ++ "/" ++ name).toList,
      mustEscape character = false := by
  intro character member
  rw [String.toList_append, String.toList_append] at member
  rcases List.mem_append.mp member with inFront | last
  · rcases List.mem_append.mp inFront with before | mark
    · exact inPart character (mem_of_withoutEndSlashes before)
    · exact List.mem_singleton.mp mark ▸ slash
  · exact inName character last

section Whole

variable {base : Url} (written : base.IsWritten)
include written

/-- The scheme and the authority do not end in a slash. -/
theorem IsWritten.origin_ends :
    ∃ before last, base.origin.toList = before ++ [last] ∧ last ≠ '/' := by
  obtain ⟨authority, told, writtenAuthority⟩ := written.authority
  rcases empty_or_ends authority.text with empty | ⟨before, last, ends⟩
  · exact absurd (String.toList_eq_nil_iff.mpr empty) writtenAuthority.text_ne_nil
  · refine ⟨(base.scheme ++ ":" ++ "//").toList ++ before, last, ?_, ?_⟩
    · simp [origin, told, ends]
    · exact (writtenAuthority.inner (ends ▸ List.mem_concat_self)).2

/-- The path of an address loses its slashes if nothing is behind it. -/
theorem IsWritten.withoutEndSlashes_text (noQuery : base.query = none)
    (noFragment : base.fragment = none) :
    withoutEndSlashes base.text = base.origin ++ withoutEndSlashes base.path.text := by
  have front : base.text = base.origin ++ base.path.text := by
    simp [text, target, noFragment, noQuery, marked]
  obtain ⟨before, last, ends, different⟩ := written.origin_ends
  rw [front, withoutEndSlashes_append ends different]

/-- The last part of an address is the one that loses its slashes and has the name behind it. -/
theorem IsWritten.text_extended (name : String) :
    (base.extended name).text = withoutEndSlashes base.text ++ "/" ++ name := by
  cases noted : base.fragment with
  | some fragment =>
    have front : base.text = base.origin ++ base.target ++ "#" ++ fragment := by
      simp [text, noted, marked, String.append_assoc]
    have ends : (base.origin ++ base.target ++ "#").toList =
        (base.origin ++ base.target).toList ++ ['#'] := String.toList_append
    rw [front, withoutEndSlashes_append ends (by decide)]
    simp [Url.extended, noted, text, origin, target, marked, String.append_assoc]
  | none =>
    cases asked : base.query with
    | some query =>
      have front : base.text = base.origin ++ base.path.text ++ "?" ++ query := by
        simp [text, target, noted, asked, marked, String.append_assoc]
      have ends : (base.origin ++ base.path.text ++ "?").toList =
          (base.origin ++ base.path.text).toList ++ ['?'] := String.toList_append
      rw [front, withoutEndSlashes_append ends (by decide)]
      simp [Url.extended, noted, asked, text, origin, target, marked, String.append_assoc]
    | none =>
      obtain ⟨authority, told, -⟩ := written.authority
      rw [written.withoutEndSlashes_text asked noted]
      simp [Url.extended, noted, asked, text, origin, target, marked, told,
        Path.text_below written.path, String.append_assoc]

/-- An address with the name of an endpoint behind it is written. -/
theorem IsWritten.extended {name : String} (endpoint : IsEndpointName name) :
    (base.extended name).IsWritten := by
  unfold Url.extended
  split
  · rename_i fragment noted
    refine { written with fragment := ?_ }
    rintro _ ⟨rfl⟩
    refine kept_behind rfl (written.fragment fragment noted) fun character member => ?_
    exact (Bool.or_eq_false_iff.mp (endpoint.escaped character member)).1
  split
  · rename_i query asked
    refine { written with query := ?_ }
    rintro _ ⟨rfl⟩
    exact kept_behind rfl (written.query query asked) endpoint.inQuery
  · exact { written with path := written.path.below endpoint.toIsSegment }

/-- The address of an endpoint is the base address with the name behind the last of its parts, and
with the host that the text of the host denotes. -/
theorem IsWritten.endpoint?_eq {authority : Authority} (told : base.authority = some authority)
    {name : String} (endpoint : IsEndpointName name) :
    base.endpoint? name = (Host.read? true authority.host.text.toList).map fun host =>
      { base.extended name with authority := some { authority with host } } := by
  have toldExtended : (base.extended name).authority = some authority := by
    unfold Url.extended
    split
    · exact told
    · split <;> exact told
  rw [endpoint?, ← written.text_extended name]
  exact (written.extended endpoint).read? toldExtended

end Whole

/-! ## Below the path -/

/-- An address lies at a name below the path of a base address, on the same scheme, host and
port. -/
structure LiesBelow (url base : Url) (name : String) : Prop where
  scheme : url.scheme = base.scheme
  host : url.authority.map Authority.host = base.authority.map Authority.host
  port : url.authority.bind Authority.port = base.authority.bind Authority.port
  path : url.path.text = withoutEndSlashes base.path.text ++ "/" ++ name

/-- Two addresses that differ at most in the slashes at the end of their paths. -/
def DiffersInEndSlashes (first second : Url) : Prop :=
  second = { first with path := second.path } ∧
    withoutEndSlashes first.path.text = withoutEndSlashes second.path.text

/-- Without a query and a fragment the name goes to the path. -/
theorem extended_of_bare {base : Url} (noQuery : base.query = none)
    (noFragment : base.fragment = none) (name : String) :
    base.extended name = { base with path := base.path.below name } := by
  simp only [extended, noQuery, noFragment]

/-- With a query or a fragment the path stays as it is. -/
theorem path_extended {base : Url} (behind : ¬ (base.query = none ∧ base.fragment = none))
    (name : String) : (base.extended name).path = base.path := by
  unfold extended
  split
  · rfl
  rename_i noFragment
  split
  · rfl
  · rename_i noQuery
    exact absurd ⟨noQuery, noFragment⟩ behind

section Below

variable {base : Url} (written : base.IsWritten)
include written

/-- A base address has its endpoint below its path exactly if nothing is behind the path and the
address is read back. -/
theorem IsWritten.endpoint_liesBelow_iff {name : String} (endpointName : IsEndpointName name) :
    (∃ endpoint, base.endpoint? name = some endpoint ∧ endpoint.LiesBelow base name) ↔
      base.query = none ∧ base.fragment = none ∧ Url.read? base.text = some base := by
  obtain ⟨authority, told, -⟩ := written.authority
  rw [written.endpoint?_eq told endpointName, written.read?_eq_iff told, ← and_assoc]
  constructor
  · rintro ⟨endpoint, found, below⟩
    obtain ⟨host, readHost, rfl⟩ := Option.map_eq_some_iff.mp found
    have same : host = authority.host := by simpa [told] using below.host
    refine ⟨?_, same ▸ readHost⟩
    by_contra behind
    have undivided : '/' ∉ name.toList := fun member => (endpointName.undivided '/' member).1 rfl
    have path := below.path
    rw [path_extended behind] at path
    exact text_ne_below base.path.text undivided endpointName.proper path
  · rintro ⟨⟨noQuery, noFragment⟩, readHost⟩
    refine ⟨_, by rw [readHost, Option.map_some], ?_⟩
    rw [extended_of_bare noQuery noFragment]
    exact ⟨rfl, by rw [told], by rw [told], Path.text_below written.path name⟩

/-- Slashes at the end of the path make no difference to an endpoint if nothing is behind the
path. -/
theorem IsWritten.endpoint?_alike {other : Url} (writtenOther : other.IsWritten)
    (differs : base.DiffersInEndSlashes other) (noQuery : base.query = none)
    (noFragment : base.fragment = none) (name : String) :
    other.endpoint? name = base.endpoint? name := by
  obtain ⟨same, slashes⟩ := differs
  obtain ⟨authority, told, -⟩ := written.authority
  have origin : other.origin = base.origin := by
    rw [same]
    simp [Url.origin, told]
  have otherQuery : other.query = none := by rw [same, noQuery]
  have otherFragment : other.fragment = none := by rw [same, noFragment]
  rw [endpoint?, endpoint?, written.withoutEndSlashes_text noQuery noFragment,
    writtenOther.withoutEndSlashes_text otherQuery otherFragment, origin, slashes]

end Below

end Syndication.Url
