import Syndication.Proofs.Plu.RoundTrip
import Syndication.Proofs.Url.Reading

/-!
# Written addresses are read back

Reading the text of an address for requests that is in its written form finds the same parts again.
What is left to the host is whether its text denotes it: a name goes through the mapping of
international names a second time.
-/

namespace Syndication.Url

/-- A part in which nothing has to be escaped stays as it is. -/
theorem escaped_of_kept {mustEscape : Char → Bool} {part : String}
    (kept : ∀ character ∈ part.toList, mustEscape character = false) :
    escaped mustEscape part.toList = part := by
  rw [escaped, Text.percentEncode_of_kept kept, String.ofList_toList]

/-- The same for a part that may be missing. -/
theorem map_escaped_of_kept {mustEscape : Char → Bool} {part : Option String}
    (kept : ∀ text ∈ part, ∀ character ∈ text.toList, mustEscape character = false) :
    (part.map String.toList).map (escaped mustEscape) = part := by
  cases part with
  | none => rfl
  | some text => simp [escaped_of_kept (kept text rfl)]

/-! ## Authorities -/

/-- The user of an authority as it stands in front of the at-sign. -/
def Authority.userText (authority : Authority) : Option (List Char) :=
  if authority.user.isEmpty ∧ authority.password.isEmpty then none
  else if authority.password.isEmpty then some authority.user.toList
  else some (authority.user.toList ++ ':' :: authority.password.toList)

/-- The port of an authority as it stands behind the colon. -/
def Authority.portText (authority : Authority) : Option (List Char) :=
  authority.port.map (Nat.toDigits 10)

/-- The host and the port of an authority with the colon between them. -/
def Authority.placeText (authority : Authority) : List Char :=
  authority.host.text.toList ++ (authority.portText.map (':' :: ·)).getD []

/-- Digits may stand in an address, and divide nothing. -/
theorem inner_of_mem_toDigits {port : Nat} {digit : Char} (member : digit ∈ Nat.toDigits 10 port) :
    IsInner digit ∧ digit ≠ '/' ∧ digit ≠ '@' := by
  have digital := Nat.isDigit_of_mem_toDigits (by decide) (by decide) member
  obtain ⟨inner, noSlash, -, noAt, -⟩ := inner_of_allowed_in_name (allowed_of_isDigit digital)
  exact ⟨inner, noSlash, noAt⟩

/-- An authority is written with the at-sign between its user and its place. -/
theorem Authority.toList_text (authority : Authority) : authority.text.toList =
    (authority.userText.map (· ++ ['@'])).getD [] ++ authority.placeText := by
  have credentials : authority.credentials.toList =
      (authority.userText.map (· ++ ['@'])).getD [] := by
    unfold Authority.credentials Authority.userText
    split_ifs <;> simp
  rw [Authority.text, Authority.placeText, Authority.portText]
  cases authority.port <;> simp [credentials]

section Written

variable {scheme : String} {authority : Authority} (written : authority.IsWritten scheme)
include written

/-- A user divides nothing. -/
theorem Authority.IsWritten.inner_user {user : List Char} (named : authority.userText = some user)
    {character : Char} (member : character ∈ user) : IsInner character ∧ character ≠ '/' := by
  have kept : ∀ {character}, isEscapedInUser character = false →
      IsInner character ∧ character ≠ '/' := fun free =>
    ⟨(inner_of_kept_in_user free).1, (inner_of_kept_in_user free).2.1⟩
  unfold Authority.userText at named
  split_ifs at named
  · obtain rfl := Option.some_inj.mp named
    exact kept (written.user character member)
  · obtain rfl := Option.some_inj.mp named
    rcases List.mem_append.mp member with inName | behind
    · exact kept (written.user character inName)
    rcases List.mem_cons.mp behind with rfl | inPassword
    · decide
    · exact kept (written.password character inPassword)

/-- The place that an authority names divides nothing, and no user ends in it. -/
theorem Authority.IsWritten.inner_place {character : Char}
    (member : character ∈ authority.placeText) :
    IsInner character ∧ character ≠ '/' ∧ character ≠ '@' := by
  rcases List.mem_append.mp member with inHost | inPort
  · exact written.host.inner inHost
  · unfold Authority.portText at inPort
    cases told : authority.port with
    | none => simp [told] at inPort
    | some port =>
      rw [told, Option.map_some, Option.map_some, Option.getD_some] at inPort
      rcases List.mem_cons.mp inPort with rfl | digit
      · decide
      · exact inner_of_mem_toDigits digit

/-- A character of an authority may stand in an address, and is no slash. -/
theorem Authority.IsWritten.inner {character : Char} (member : character ∈ authority.text.toList) :
    IsInner character ∧ character ≠ '/' := by
  rw [authority.toList_text] at member
  rcases List.mem_append.mp member with inUser | inPlace
  · cases named : authority.userText with
    | none => simp [named] at inUser
    | some user =>
      rw [named, Option.map_some, Option.getD_some] at inUser
      rcases List.mem_append.mp inUser with inName | last
      · exact written.inner_user named inName
      · obtain rfl := List.mem_singleton.mp last
        decide
  · obtain ⟨inner, noSlash, -⟩ := written.inner_place inPlace
    exact ⟨inner, noSlash⟩

/-- An authority is not empty, because a host is not. -/
theorem Authority.IsWritten.text_ne_nil : authority.text.toList ≠ [] := by
  have host := written.host.ne_nil
  rw [authority.toList_text, Authority.placeText]
  simp only [ne_eq, List.append_eq_nil_iff, not_and_or]
  exact .inr (.inl host)

/-- A written authority is cut at its marks, the path being behind it. -/
theorem Authority.IsWritten.cut (path : List Char) :
    cutAuthority (authority.text.toList ++ '/' :: path) =
      (⟨authority.userText, authority.host.text.toList, authority.portText⟩, '/' :: path) := by
  have noSlash : '/' ∉ authority.text.toList := fun member => (written.inner member).2 rfl
  -- No at-sign stands in the place, so the last one is that behind the user.
  have user : cutAtLast '@' authority.text.toList =
      (authority.userText, authority.placeText) := by
    have noAt : '@' ∉ authority.placeText := fun member => (written.inner_place member).2.2 rfl
    rw [authority.toList_text]
    cases authority.userText with
    | none => exact cutAtLast_of_not_mem noAt
    | some user =>
      rw [Option.map_some, Option.getD_some, List.append_assoc]
      exact cutAtLast_append user noAt
  have whole := span_of_not_mem noSlash ('/' :: path) (by simp)
  simp only [cutAuthority, whole, user, Authority.placeText]
  cases told : authority.portText with
  | none =>
    rw [Option.map_none, Option.getD_none, List.append_nil, written.host.cutPort.1]
  | some port =>
    rw [Option.map_some, Option.getD_some, written.host.cutPort.2]
    have noBackslash : '\\' ∉ port := by
      obtain ⟨number, -, rfl⟩ := Option.map_eq_some_iff.mp told
      exact fun member => (inner_of_mem_toDigits member).1.isNoBackslash rfl
    have digits := span_of_not_mem noBackslash [] (by simp)
    rw [List.append_nil] at digits
    simp only [digits, List.nil_append]

/-- The name and the password of a user are found at the colon between them. -/
theorem Authority.IsWritten.cut_user :
    (cutAt ':' (authority.userText.getD [])).1 = authority.user.toList ∧
      (cutAt ':' (authority.userText.getD [])).2.getD [] = authority.password.toList := by
  have noColon : ':' ∉ authority.user.toList := fun member =>
    (inner_of_kept_in_user (written.user ':' member)).2.2.1 rfl
  unfold Authority.userText
  split_ifs with unnamed noPassword
  · simp_all [cutAt]
  · simp_all [cutAt_of_not_mem noColon]
  · simp [cutAt_append noColon]

/-- A port is read back from its digits. -/
theorem Authority.IsWritten.readPort? :
    Url.readPort? scheme authority.portText = some authority.port := by
  unfold Authority.portText
  cases told : authority.port with
  | none => rfl
  | some port =>
    obtain ⟨inRange, unimplied⟩ := written.port port told
    cases digits : Nat.toDigits 10 port with
    | nil => exact absurd digits Nat.toDigits_ne_nil
    | cons first rest =>
      have value : Text.natural? (first :: rest) = some port := by
        rw [← digits, Text.natural?_toDigits]
      simp [Url.readPort?, digits, value, Nat.not_lt.mpr inRange, unimplied]

/-- A written authority is read back up to its host. -/
theorem Authority.IsWritten.readAuthority? (web : isWebScheme scheme = true) (last : Bool) :
    Url.readAuthority? scheme last
        ⟨authority.userText, authority.host.text.toList, authority.portText⟩ =
      (Host.read? true authority.host.text.toList).map fun host => { authority with host } := by
  obtain ⟨user, password⟩ := written.cut_user
  have named : authority.host.text.toList.isEmpty = false := by
    simpa using written.host.ne_nil
  simp only [Url.readAuthority?, user, password, named, web, written.readPort?,
    escaped_of_kept written.user, escaped_of_kept written.password]
  cases Host.read? true authority.host.text.toList <;> rfl

end Written

/-! ## Paths -/

/-- A path with segments is written with a slash in front of each. -/
theorem Path.toList_text {names : List String} (nonempty : names ≠ []) :
    (Path.segments names).text.toList = '/' :: ['/'].intercalate (names.map String.toList) := by
  induction names with
  | nil => exact absurd rfl nonempty
  | cons name rest inductionHypothesis =>
    rw [Path.text, List.map_cons, String.join_cons, String.toList_append, ← Path.text]
    cases rest with
    | nil => simp [Path.text]
    | cons next rest =>
      rw [inductionHypothesis (List.cons_ne_nil _ _)]
      simp [List.intercalate_cons_cons]

/-- Written segments stand behind folders as they are. -/
theorem resolve_written {scheme : String} (other : scheme ≠ "file") (folders : List String)
    {names : List String} (written : ∀ name ∈ names, IsSegment name) :
    resolve scheme folders (names.map String.toList) = folders ++ names := by
  induction names generalizing folders with
  | nil => simp [resolve]
  | cons name rest inductionHypothesis =>
    rw [List.forall_mem_cons] at written
    obtain ⟨noSameFolder, noUpperFolder⟩ := not_or.mp written.1.meansNoFolder
    rw [List.map_cons, resolve, if_neg noUpperFolder, if_neg noSameFolder, segmentText_eq other,
      escaped_of_kept written.1.escaped, inductionHypothesis _ written.2, List.append_assoc,
      List.singleton_append]

/-- A written path is read back. -/
theorem readSegments_text {scheme : String} (other : scheme ≠ "file") {names : List String}
    (nonempty : names ≠ []) (written : ∀ name ∈ names, IsSegment name) :
    readSegments scheme (Path.segments names).text.toList = names := by
  have undivided : ∀ segment ∈ names.map String.toList, '/' ∉ segment := by
    rw [List.forall_mem_map]
    exact fun name member inside => ((written name member).undivided '/' inside).1 rfl
  rw [Path.toList_text nonempty, readSegments, List.splitOn_intercalate _ undivided (by simpa),
    resolve_written other _ written, List.nil_append]

/-- A character of a written path may stand in an address. -/
theorem Path.IsWritten.inner {path : Path} (written : path.IsWritten) {character : Char}
    (member : character ∈ path.text.toList) : IsInner character := by
  have slash : IsInner '/' := by decide
  obtain ⟨nonempty, segments⟩ := written
  rw [Path.toList_text nonempty] at member
  rcases List.mem_cons.mp member with rfl | behind
  · exact slash
  rcases mem_of_mem_intercalate behind with inMark | ⟨piece, among, inPiece⟩
  · exact List.mem_singleton.mp inMark ▸ slash
  · obtain ⟨name, inPath, rfl⟩ := List.mem_map.mp among
    have kept := (segments name inPath).escaped character inPiece
    obtain ⟨visible, noFragment, noQuery⟩ := visible_of_kept_in_path kept
    exact ⟨visible, noFragment, noQuery, ((segments name inPath).undivided character inPiece).2⟩

/-! ## Addresses -/

/-- A visible text has nothing around it or in it that does not belong to it. -/
theorem trimmed_of_visible {text : List Char}
    (visible : ∀ character ∈ text, 0x20 < character.toNat) : trimmed text = text := by
  have surrounds : ∀ {part : List Char}, (∀ character ∈ part, character ∈ text) →
      part.dropWhile isSurrounding = part := by
    intro part within
    cases part with
    | nil => rfl
    | cons first rest =>
      have inside : ¬ isSurrounding first = true := by
        have := visible first (within first (.head _))
        simp [isSurrounding, this]
      rw [List.dropWhile_cons, if_neg inside]
  have belongs : ∀ character ∈ text, (!isLineOrTab character) = true := by
    intro character member
    have known : ∀ mark ∈ ['\t', '\n', '\r'], ¬ 0x20 < mark.toNat :=
      List.all_iff_forall_prop.mp (by decide)
    simp only [isLineOrTab, Bool.not_eq_true', List.contains_eq_mem, decide_eq_false_iff_not]
    exact fun line => known character line (visible character member)
  rw [trimmed, surrounds fun _ => id, surrounds fun _ => List.mem_reverse.mp, List.reverse_reverse,
    List.filter_eq_self.mpr belongs]

/-- A part is found behind its mark. -/
theorem cutAt_marked {mark : Char} {text : String} (single : text.toList = [mark])
    {front : List Char} (absent : mark ∉ front) (part : Option String) :
    cutAt mark (front ++ (marked text part).toList) = (front, part.map String.toList) := by
  cases part with
  | none => simp [marked, cutAt_of_not_mem absent]
  | some part => simp [marked, single, cutAt_append absent]

/-- What stands behind a mark belongs to the part. -/
theorem mem_marked {mark : String} {part : Option String} {character : Char}
    (member : character ∈ (marked mark part).toList) :
    character ∈ mark.toList ∨ ∃ text ∈ part, character ∈ text.toList := by
  cases part with
  | none => cases member
  | some text =>
    rw [marked, String.toList_append] at member
    exact (List.mem_append.mp member).imp_right fun inText => ⟨text, rfl, inText⟩

/-- The scheme of a request is read back. -/
theorem readScheme?_request {scheme : String} (request : IsRequestScheme scheme)
    (behind : List Char) :
    readScheme? (scheme.toList ++ ':' :: behind) = some (scheme, behind) := by
  rcases request with rfl | rfl <;> rfl

/-- What stands behind the colon of a written address, up to the query, is read back up to the
host. -/
theorem readHierarchy?_text {scheme : String} (request : IsRequestScheme scheme) (last : Bool)
    {authority : Authority} (written : authority.IsWritten scheme) {path : Path}
    (writtenPath : path.IsWritten) :
    readHierarchy? scheme last ('/' :: '/' :: (authority.text.toList ++ path.text.toList)) =
      (Host.read? true authority.host.text.toList).map fun host =>
        (some { authority with host }, path) := by
  obtain ⟨web, other⟩ := request.onTheWeb
  -- No backslash is taken for a slash, and only the slashes in front of the authority are passed.
  have slashed : (authority.text.toList ++ path.text.toList).map
      (fun character => if character = '\\' then '/' else character) =
      authority.text.toList ++ path.text.toList := by
    refine (List.map_congr_left fun character member => if_neg ?_).trans (List.map_id _)
    rcases List.mem_append.mp member with inAuthority | inPath
    · exact (written.inner inAuthority).1.isNoBackslash
    · exact (writtenPath.inner inPath).isNoBackslash
  have noSlash : (authority.text.toList ++ path.text.toList).dropWhile
      (fun character => character = '/') = authority.text.toList ++ path.text.toList := by
    cases told : authority.text.toList with
    | nil => exact absurd told written.text_ne_nil
    | cons first rest =>
      have different : first ≠ '/' := (written.inner (told ▸ .head rest)).2
      rw [List.cons_append, List.dropWhile_cons, if_neg (by simpa using different)]
  obtain ⟨nonempty, segments⟩ := writtenPath
  have readBack := readSegments_text other nonempty segments
  rw [Path.toList_text nonempty] at slashed noSlash readBack ⊢
  have behindSlashes : ('/' :: '/' :: (authority.text.toList ++ '/' :: _)).dropWhile
      (fun character => character = '/') = authority.text.toList ++ '/' :: _ := noSlash
  simp only [readHierarchy?, web, if_neg other, List.map_cons, ite_self, slashed,
    behindSlashes, written.cut, written.readAuthority? web, readBack]
  cases Host.read? true authority.host.text.toList <;> rfl

section Whole

variable {url : Url} (written : url.IsWritten) {authority : Authority}
  (told : url.authority = some authority)
include written told

/-- The authority of a written address is written. -/
theorem IsWritten.writtenAuthority : authority.IsWritten url.scheme := by
  obtain ⟨other, toldOther, writtenOther⟩ := written.authority
  obtain rfl := Option.some_inj.mp (told.symm.trans toldOther)
  exact writtenOther

omit written in
/-- The scheme, the authority and the path with the marks between them. -/
theorem toList_front : (url.origin ++ url.path.text).toList =
    url.scheme.toList ++ ':' :: '/' :: '/' :: (authority.text.toList ++ url.path.text.toList) := by
  simp [origin, told]

/-- What stands in front of the query of a written address. -/
theorem IsWritten.inner_front {character : Char}
    (member : character ∈ (url.origin ++ url.path.text).toList) : IsInner character := by
  have scheme : ∀ character ∈ url.scheme.toList, IsInner character := by
    rcases written.scheme with http | https
    · rw [http]
      exact List.all_iff_forall_prop.mp (by decide)
    · rw [https]
      exact List.all_iff_forall_prop.mp (by decide)
  rw [toList_front told] at member
  simp only [List.mem_append, List.mem_cons] at member
  rcases member with inScheme | rfl | rfl | rfl | inAuthority | inPath
  · exact scheme character inScheme
  · decide
  · decide
  · decide
  · exact ((written.writtenAuthority told).inner inAuthority).1
  · exact written.path.inner inPath

/-- What stands in front of the fragment of a written address. -/
theorem IsWritten.visible_front {character : Char}
    (member : character ∈ (url.origin ++ url.target).toList) :
    0x20 < character.toNat ∧ character ≠ '#' := by
  rw [target, ← String.append_assoc, String.toList_append] at member
  rcases List.mem_append.mp member with inFront | behind
  · have inner := written.inner_front told inFront
    exact ⟨inner.visible, inner.startsNoFragment⟩
  · rcases mem_marked behind with mark | ⟨query, asked, inQuery⟩
    · obtain rfl := List.mem_singleton.mp mark
      decide
    · exact visible_of_kept_in_query (written.query query asked character inQuery)

/-- A written address is visible. -/
theorem IsWritten.visible {character : Char} (member : character ∈ url.text.toList) :
    0x20 < character.toNat := by
  rw [text, String.toList_append] at member
  rcases List.mem_append.mp member with inFront | behind
  · exact (written.visible_front told inFront).1
  · rcases mem_marked behind with mark | ⟨fragment, noted, inFragment⟩
    · obtain rfl := List.mem_singleton.mp mark
      decide
    · exact visible_of_kept_in_fragment (written.fragment fragment noted character inFragment)

/-- A written address is read back up to its host. -/
theorem IsWritten.read? :
    Url.read? url.text = (Host.read? true authority.host.text.toList).map fun host =>
      { url with authority := some { authority with host } } := by
  -- The first number sign and the first question mark are those that were put between the parts.
  have noFragment : '#' ∉ (url.origin ++ url.target).toList := fun member =>
    (written.visible_front told member).2 rfl
  have noQuery : '?' ∉ (url.origin ++ url.path.text).toList := fun member =>
    (written.inner_front told member).startsNoQuery rfl
  have cutFragment : cutAt '#' url.text.toList =
      ((url.origin ++ url.target).toList, url.fragment.map String.toList) := by
    rw [Url.text, String.toList_append]
    exact cutAt_marked (by decide) noFragment url.fragment
  have cutQuery : cutAt '?' (url.origin ++ url.target).toList =
      ((url.origin ++ url.path.text).toList, url.query.map String.toList) := by
    rw [Url.target, ← String.append_assoc, String.toList_append]
    exact cutAt_marked (by decide) noQuery url.query
  have query : (url.query.map String.toList).map (escaped (isEscapedInQuery true)) = url.query :=
    map_escaped_of_kept written.query
  have fragment : (url.fragment.map String.toList).map (escaped isEscapedInFragment) =
      url.fragment := map_escaped_of_kept written.fragment
  simp only [Url.read?, trimmed_of_visible fun _ => written.visible told, cutFragment, cutQuery,
    toList_front told, readScheme?_request written.scheme, Option.bind_eq_bind, Option.bind_some,
    readHierarchy?_text written.scheme _ (written.writtenAuthority told) written.path,
    written.scheme.onTheWeb.1, query, fragment]
  cases Host.read? true authority.host.text.toList <;> rfl

/-- A written address is read back exactly if its host is. -/
theorem IsWritten.read?_eq_iff : Url.read? url.text = some url ↔
    Host.read? true authority.host.text.toList = some authority.host := by
  rw [written.read? told]
  constructor
  · intro same
    obtain ⟨host, readHost, readBack⟩ := Option.map_eq_some_iff.mp same
    have authorities := congrArg Url.authority readBack
    rw [told] at authorities
    have hosts := congrArg Authority.host (Option.some_inj.mp authorities)
    exact hosts ▸ readHost
  · intro readHost
    rw [readHost, Option.map_some, ← told]

end Whole

end Syndication.Url
