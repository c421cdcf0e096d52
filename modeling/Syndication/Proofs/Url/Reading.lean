import Mathlib.Data.List.Infix
import Mathlib.Data.List.TakeDrop
import Syndication.Proofs.Url.Written

/-!
# What is read is written

Reading an address for requests brings all of its parts into their written form. Escaping takes care
of the characters of a part; the rest is due to how the text is cut and resolved. No backslash gets
into a path, because all of them have been taken for slashes before, and segments that mean folders
have been resolved, so that escaping the other ones cannot bring any about.
-/

namespace Syndication.Url

/-! ## Authorities -/

/-- A port that has been read is told: it is in range and the scheme does not imply it. -/
theorem port_of_readPort? {scheme : String} {digits : Option (List Char)} {port : Option Nat}
    (read : readPort? scheme digits = some port) :
    ∀ told ∈ port, told ≤ 65535 ∧ defaultPorts.lookup scheme ≠ some told := by
  rintro told rfl
  unfold readPort? at read
  split at read
  · cases read
  · cases read
  · obtain ⟨value, -, checked⟩ := Option.bind_eq_some_iff.mp read
    split at checked
    · cases checked
    rename_i inRange
    split at checked
    · cases checked
    · rename_i unimplied
      cases checked
      exact ⟨Nat.not_lt.mp inRange, unimplied⟩

/-- An authority that has been read on the web is written. -/
theorem isWritten_of_readAuthority? {scheme : String} (web : isWebScheme scheme = true)
    {last : Bool} {text : AuthorityText} {authority : Authority}
    (read : readAuthority? scheme last text = some authority) : authority.IsWritten scheme := by
  simp only [readAuthority?] at read
  split at read
  · cases read
  · obtain ⟨host, readHost, read⟩ := Option.bind_eq_some_iff.mp read
    obtain ⟨port, readPort, read⟩ := Option.bind_eq_some_iff.mp read
    obtain rfl := Option.some_inj.mp read
    rw [web] at readHost
    exact {
      user := fun _ => kept_of_mem_escaped (by decide)
      password := fun _ => kept_of_mem_escaped (by decide)
      host := isHostText_of_read readHost
      port := port_of_readPort? readPort }

/-! ## Paths -/

/-- The path behind an authority belongs to the text. -/
theorem mem_of_cutAuthority {text : List Char} {character : Char}
    (member : character ∈ (cutAuthority text).2) : character ∈ text := by
  have inWhole : ∀ behindColon ∈ (cutPort false (cutAtLast '@'
      (text.span fun character => character ≠ '/').1).2).2,
      character ∈ behindColon → character ∈ (text.span fun character => character ≠ '/').1 :=
    fun behindColon cut inside => mem_of_cutAtLast _ _ (mem_of_cutPort _ _ behindColon cut inside)
  simp only [List.span_eq_takeWhile_dropWhile] at inWhole
  simp only [cutAuthority, List.span_eq_takeWhile_dropWhile] at member
  split at member
  · exact (List.dropWhile_sublist _).subset member
  · rename_i behindColon cut
    rcases List.mem_append.mp member with backslashed | slashed
    · have inPort : character ∈ behindColon := (List.dropWhile_sublist _).subset backslashed
      exact (List.takeWhile_sublist _).subset (inWhole behindColon cut inPort)
    · exact (List.dropWhile_sublist _).subset slashed

section Segments

variable {scheme : String} (other : scheme ≠ "file")
include other

/-- Outside the file system a segment is brought into its written form by escaping. -/
theorem segmentText_eq (folders : List String) (segment : List Char) :
    segmentText scheme folders segment = escaped isEscapedInPath segment := by
  unfold segmentText
  split
  · rw [if_neg fun file => other file.1]
  · rfl

/-- What stands behind written folders is written. -/
theorem isSegment_of_mem_resolve {segments : List (List Char)}
    (undivided : ∀ segment ∈ segments, ∀ character ∈ segment, character ≠ '/' ∧ character ≠ '\\')
    {folders : List String} (inFront : ∀ folder ∈ folders, IsSegment folder) :
    ∀ name ∈ resolve scheme folders segments, IsSegment name := by
  induction segments generalizing folders with
  | nil => rwa [resolve]
  | cons segment rest inductionHypothesis =>
    rw [List.forall_mem_cons] at undivided
    have atEnd : ∀ name ∈ (if rest.isEmpty then [""] else []), IsSegment name := by
      intro name member
      split at member
      · exact List.mem_singleton.mp member ▸ isSegment_empty
      · cases member
    have inUpper : ∀ name ∈ upper folders, IsSegment name := by
      intro name member
      unfold upper at member
      split at member
      · exact inFront name member
      · exact inFront name (List.mem_of_mem_dropLast member)
    rw [resolve]
    split
    · exact inductionHypothesis undivided.2 (List.forall_mem_append.mpr ⟨inUpper, atEnd⟩)
    rename_i noUpperFolder
    split
    · exact inductionHypothesis undivided.2 (List.forall_mem_append.mpr ⟨inFront, atEnd⟩)
    · rename_i noSameFolder
      refine inductionHypothesis undivided.2 (List.forall_mem_append.mpr ⟨inFront, ?_⟩)
      rw [List.forall_mem_singleton, segmentText_eq other]
      exact isSegment_escaped undivided.1 (not_or.mpr ⟨noSameFolder, noUpperFolder⟩)

end Segments

/-- Segments stay segments: at least an empty one takes the place of those that mean folders. -/
theorem resolve_ne_nil (scheme : String) (folders : List String) {segments : List (List Char)}
    (nonempty : segments ≠ []) : resolve scheme folders segments ≠ [] := by
  induction segments generalizing folders with
  | nil => exact absurd rfl nonempty
  | cons segment rest inductionHypothesis =>
    cases rest with
    | nil =>
      simp only [resolve, List.isEmpty_nil, if_true]
      split_ifs <;> simp
    | cons next rest =>
      rw [resolve]
      split_ifs <;> exact inductionHypothesis _ (List.cons_ne_nil _ _)

/-- The path behind an authority is written. -/
theorem isWritten_readSegments {scheme : String} (web : isWebScheme scheme = true)
    (other : scheme ≠ "file") {text : List Char} (slashed : '\\' ∉ text) :
    (Path.segments (readSegments scheme text)).IsWritten := by
  have resolved : ∀ path : List Char, (∀ character ∈ path, character ∈ text) →
      (Path.segments (resolve scheme [] (path.splitOn '/'))).IsWritten := by
    intro path within
    refine .segments (resolve_ne_nil scheme [] (List.splitOn_ne_nil '/' path))
      (isSegment_of_mem_resolve other (fun segment piece character inside => ?_) nofun)
    obtain ⟨inPath, noSlash⟩ := mem_of_splitOn piece inside
    exact ⟨noSlash, fun backslash => slashed (backslash ▸ within character inPath)⟩
  unfold readSegments
  split
  · rw [if_pos web]
    exact .segments (List.cons_ne_nil _ _) (List.forall_mem_singleton.mpr isSegment_empty)
  · exact resolved _ fun _ => .tail _
  · exact resolved _ fun _ => id

/-! ## Addresses -/

/-- The schemes of requests are schemes of the web, and none is that of files. -/
theorem IsRequestScheme.onTheWeb {scheme : String} (request : IsRequestScheme scheme) :
    isWebScheme scheme = true ∧ scheme ≠ "file" := by
  rcases request with rfl | rfl <;> decide

/-- The authority and the path that have been read are written. -/
theorem isWritten_of_readHierarchy? {scheme : String} (request : IsRequestScheme scheme)
    {last : Bool} {text : List Char} {authority : Option Authority} {path : Path}
    (read : readHierarchy? scheme last text = some (authority, path)) :
    (∃ told, authority = some told ∧ told.IsWritten scheme) ∧ path.IsWritten := by
  obtain ⟨web, other⟩ := request.onTheWeb
  simp only [readHierarchy?, if_pos web, if_neg other] at read
  obtain ⟨told, readTold, same⟩ := Option.map_eq_some_iff.mp read
  obtain ⟨rfl, rfl⟩ := Prod.mk.inj same
  refine ⟨⟨told, rfl, isWritten_of_readAuthority? web readTold⟩,
    isWritten_readSegments web other fun backslash => ?_⟩
  have inText := (List.dropWhile_sublist _).subset (mem_of_cutAuthority backslash)
  obtain ⟨character, -, replaced⟩ := List.mem_map.mp inText
  split at replaced
  · exact absurd replaced (by decide)
  · rename_i different
    exact different replaced

/-- An address for requests that has been read is written. -/
theorem isWritten_of_read? {text : String} {url : Url} (read : read? text = some url)
    (request : IsRequestScheme url.scheme) : url.IsWritten := by
  simp only [Url.read?] at read
  obtain ⟨⟨scheme, hierarchy⟩, -, read⟩ := Option.bind_eq_some_iff.mp read
  obtain ⟨⟨authority, path⟩, readParts, read⟩ := Option.bind_eq_some_iff.mp read
  obtain rfl := Option.some_inj.mp read
  obtain ⟨told, written⟩ := isWritten_of_readHierarchy? request readParts
  refine ⟨request, told, written, fun query asked => ?_, fun fragment marked => ?_⟩
  · obtain ⟨part, -, rfl⟩ := Option.map_eq_some_iff.mp asked
    rw [request.onTheWeb.1]
    exact fun _ => kept_of_mem_escaped (by decide)
  · obtain ⟨part, -, rfl⟩ := Option.map_eq_some_iff.mp marked
    exact fun _ => kept_of_mem_escaped (by decide)

end Syndication.Url
