import Mathlib.Data.Bool.AllAny
import Syndication.Proofs.Text.Escape
import Syndication.Proofs.Url.Cutting

/-!
# Written addresses

Every part of an address that has been read is written: nothing in it is left to be escaped, and no
mark that ends the part occurs in it. A segment means no folder, a host is a name or stands in
brackets, a port is told only if the scheme does not imply it.

These are conditions on the characters of the parts, so that they can be checked for parts that
have been put together, too.
-/

namespace Syndication.Url

/-! ## Characters -/

/-- A character that may stand between the scheme of an address and its query. -/
structure IsInner (character : Char) : Prop where
  visible : 0x20 < character.toNat
  startsNoFragment : character ≠ '#'
  startsNoQuery : character ≠ '?'
  isNoBackslash : character ≠ '\\'

/-- The condition on the characters of an address can be decided. -/
instance (character : Char) : Decidable (IsInner character) :=
  decidable_of_iff
    (0x20 < character.toNat ∧ character ≠ '#' ∧ character ≠ '?' ∧ character ≠ '\\')
    ⟨fun ⟨visible, noFragment, noQuery, noBackslash⟩ => ⟨visible, noFragment, noQuery, noBackslash⟩,
      fun inner =>
        ⟨inner.visible, inner.startsNoFragment, inner.startsNoQuery, inner.isNoBackslash⟩⟩

/-- What is kept in a fragment is visible. -/
theorem visible_of_kept_in_fragment {character : Char}
    (kept : isEscapedInFragment character = false) : 0x20 < character.toNat := by
  simp only [isEscapedInFragment, Host.isControl, Bool.or_eq_false_iff, decide_eq_false_iff_not,
    List.contains_eq_mem, List.mem_cons, not_or] at kept
  have noBlank : character.toNat ≠ 0x20 := fun blank => kept.2.1 (Char.toNat_inj.mp blank)
  omega

/-- What is kept in a query is visible and starts no fragment. -/
theorem visible_of_kept_in_query {character : Char}
    (kept : isEscapedInQuery true character = false) :
    0x20 < character.toNat ∧ character ≠ '#' := by
  simp only [isEscapedInQuery, Host.isControl, Bool.or_eq_false_iff, decide_eq_false_iff_not,
    List.contains_eq_mem, List.mem_cons, not_or] at kept
  have noBlank : character.toNat ≠ 0x20 := fun blank => kept.1.2.1 (Char.toNat_inj.mp blank)
  exact ⟨by omega, kept.1.2.2.2.1⟩

/-- What is kept in a path is visible and starts neither a query nor a fragment. -/
theorem visible_of_kept_in_path {character : Char} (kept : isEscapedInPath character = false) :
    0x20 < character.toNat ∧ character ≠ '#' ∧ character ≠ '?' := by
  simp only [isEscapedInPath, Bool.or_eq_false_iff, decide_eq_false_iff_not, List.contains_eq_mem,
    List.mem_cons, not_or] at kept
  exact ⟨visible_of_kept_in_fragment kept.1, kept.2.1, kept.2.2.1⟩

/-- What is kept in the name of a user may stand in an address, and divides nothing. -/
theorem inner_of_kept_in_user {character : Char} (kept : isEscapedInUser character = false) :
    IsInner character ∧ character ≠ '/' ∧ character ≠ ':' ∧ character ≠ '@' := by
  simp only [isEscapedInUser, Bool.or_eq_false_iff, decide_eq_false_iff_not, List.contains_eq_mem,
    List.mem_cons, not_or] at kept
  obtain ⟨visible, noFragment, noQuery⟩ := visible_of_kept_in_path kept.1
  exact ⟨⟨visible, noFragment, noQuery, by tauto⟩, by tauto⟩

/-- What may occur in a name on the web may stand in an address, and divides nothing. -/
theorem inner_of_allowed_in_name {character : Char}
    (allowed : Host.isForbiddenInName character = false) :
    IsInner character ∧ character ≠ '/' ∧ character ≠ ':' ∧ character ≠ '@' ∧ character ≠ '[' ∧
      character ≠ ']' := by
  simp only [Host.isForbiddenInName, Host.delimiters, Bool.or_eq_false_iff, decide_eq_false_iff_not,
    List.contains_eq_mem, List.mem_cons, not_or] at allowed
  exact ⟨⟨by omega, by tauto, by tauto, by tauto⟩, by tauto⟩

/-- Nothing is left to be escaped in a part where escapes stand for themselves. -/
theorem kept_of_mem_escaped {mustEscape : Char → Bool}
    (stable : ('%' :: Text.escapeDigits).any mustEscape = false) {part : List Char}
    {character : Char} (member : character ∈ (escaped mustEscape part).toList) :
    mustEscape character = false := by
  rw [escaped, String.toList_ofList] at member
  exact Text.mustEscape_of_mem_percentEncode stable member

/-! ## Segments -/

/-- The folders that a segment may not mean. -/
def folderNames : List String := [".", "%2e", "..", ".%2e", "%2e.", "%2e%2e"]

/-- A segment means a folder exactly if it is one of six texts in small letters. -/
theorem meansFolder_iff (segment : List Char) :
    (isSameFolder segment = true ∨ isUpperFolder segment = true) ↔
      String.ofList (segment.map Char.toLower) ∈ folderNames := by
  simp only [isSameFolder, isUpperFolder, folderNames, List.contains_iff_mem, List.mem_cons,
    List.not_mem_nil, or_false, or_assoc]

/-- In the text of a folder every percent sign starts the escape of a full stop. -/
theorem stop_behind_percent {name : String} (folder : name ∈ folderNames)
    {before behind : List Char} {high low : Char}
    (spelled : name.toList = before ++ '%' :: high :: low :: behind) :
    high = '2' ∧ low = 'e' := by
  have everywhere : ∀ name ∈ folderNames, ∀ place < name.toList.length,
      name.toList[place]? = some '%' →
        name.toList[place + 1]? = some '2' ∧ name.toList[place + 2]? = some 'e' := by decide
  have found := everywhere name folder before.length (by simp [spelled]) (by simp [spelled])
  simp only [spelled] at found
  simpa using found

/-- The escape of another byte than that of a full stop does not spell a full stop. -/
theorem percentEscape_spells_no_stop {byte : UInt8} (other : byte.toNat ≠ 0x2e) :
    ¬ ((Text.upperHexDigit (byte.toNat / 16)).toLower = '2' ∧
      (Text.upperHexDigit (byte.toNat % 16)).toLower = 'e') := by
  have all : ∀ value < 256, value ≠ 0x2e →
      ¬ ((Text.upperHexDigit (value / 16)).toLower = '2' ∧
        (Text.upperHexDigit (value % 16)).toLower = 'e') := by decide +kernel
  exact all _ byte.toNat_lt other

/-- A segment that means a folder when it has been written had nothing to be escaped. -/
theorem kept_of_written_folder {segment : List Char}
    (folder : String.ofList ((Text.percentEncode isEscapedInPath segment).map Char.toLower) ∈
      folderNames) : ∀ character ∈ segment, isEscapedInPath character = false := by
  intro character member
  by_contra escaped
  rw [Bool.not_eq_false] at escaped
  have different : character ≠ '.' := by
    rintro rfl
    exact absurd escaped (by decide)
  obtain ⟨byte, others, bytes⟩ := List.exists_cons_of_ne_nil
    (l := Text.characterBytes character) (by
      rw [Text.characterBytes_eq]
      exact String.utf8EncodeChar_ne_nil)
  obtain ⟨before, behind, rfl⟩ := List.append_of_mem member
  have spelled : (String.ofList ((Text.percentEncode isEscapedInPath
      (before ++ character :: behind)).map Char.toLower)).toList =
      (Text.percentEncode isEscapedInPath before).map Char.toLower ++
        '%' :: (Text.upperHexDigit (byte.toNat / 16)).toLower ::
          (Text.upperHexDigit (byte.toNat % 16)).toLower ::
            (others.flatMap Text.percentEscape ++
              Text.percentEncode isEscapedInPath behind).map Char.toLower := by
    simp [Text.percentEncode, Text.percentEscape, escaped, bytes]
  have noStop : byte.toNat ≠ 0x2e :=
    Text.ne_stop_of_mem_characterBytes different (by simp [bytes])
  exact percentEscape_spells_no_stop noStop (stop_behind_percent folder spelled)

/-- A segment in its written form: nothing in it has to be escaped or divides it, and it means no
folder. -/
structure IsSegment (segment : String) : Prop where
  escaped : ∀ character ∈ segment.toList, isEscapedInPath character = false
  undivided : ∀ character ∈ segment.toList, character ≠ '/' ∧ character ≠ '\\'
  meansNoFolder : ¬ (isSameFolder segment.toList = true ∨ isUpperFolder segment.toList = true)

/-- The empty segment is written. -/
theorem isSegment_empty : IsSegment "" where
  escaped := nofun
  undivided := nofun
  meansNoFolder := by decide

/-- Escaping a segment that is undivided and means no folder writes it. -/
theorem isSegment_escaped {segment : List Char}
    (undivided : ∀ character ∈ segment, character ≠ '/' ∧ character ≠ '\\')
    (meansNoFolder : ¬ (isSameFolder segment = true ∨ isUpperFolder segment = true)) :
    IsSegment (escaped isEscapedInPath segment) where
  escaped _ := kept_of_mem_escaped (by decide)
  undivided character member := by
    have harmless : ∀ digit ∈ '%' :: Text.escapeDigits, digit ≠ '/' ∧ digit ≠ '\\' :=
      List.all_iff_forall_prop.mp (by decide)
    rw [Url.escaped, String.toList_ofList] at member
    rcases Text.mem_percentEncode member with ⟨inSegment, -⟩ | escape
    · exact undivided character inSegment
    · exact harmless character (List.mem_cons.mpr escape)
  meansNoFolder means := by
    rw [Url.escaped, String.toList_ofList, meansFolder_iff] at means
    rw [Text.percentEncode_of_kept (kept_of_written_folder means), ← meansFolder_iff] at means
    exact meansNoFolder means

/-! ## Hosts -/

/-- The digits of the pieces of a 128-bit address. -/
def pieceDigits : List Char := "0123456789abcdef".toList

/-- The text of a host on the web: a name, or pieces with colons between them in brackets. -/
inductive IsHostText : List Char → Prop where
  | name {text : List Char} (nonempty : text ≠ [])
      (allowed : ∀ character ∈ text, Host.isForbiddenInName character = false) : IsHostText text
  | pieces {inner : List Char} (digits : ∀ character ∈ inner, character ∈ ':' :: pieceDigits) :
      IsHostText ('[' :: inner ++ [']'])

/-- A number in hexadecimal consists of digits. -/
theorem mem_pieceDigits (piece : Nat) : ∀ digit ∈ Nat.toDigits 16 piece, digit ∈ pieceDigits := by
  have single : ∀ value < 16, Nat.digitChar value ∈ pieceDigits := by decide
  induction piece using Nat.strongRecOn with
  | ind piece inductionHypothesis =>
    rw [Nat.toDigits_eq_if (by decide)]
    split
    · rename_i small
      simpa using single piece small
    · rename_i large
      intro digit member
      rcases List.mem_append.mp member with high | low
      · exact inductionHypothesis (piece / 16) (by omega) digit high
      · rw [List.mem_singleton.mp low]
        exact single _ (Nat.mod_lt _ (by decide))

/-- A text with marks between its pieces has the characters of the marks and of the pieces. -/
theorem mem_of_mem_intercalate {mark : List Char} {pieces : List (List Char)} {character : Char}
    (member : character ∈ mark.intercalate pieces) :
    character ∈ mark ∨ ∃ piece ∈ pieces, character ∈ piece := by
  induction pieces with
  | nil => rw [List.intercalate_nil] at member; cases member
  | cons piece rest inductionHypothesis =>
    cases rest with
    | nil =>
      rw [List.intercalate_singleton] at member
      exact .inr ⟨piece, .head _, member⟩
    | cons next rest =>
      rw [List.intercalate_cons_cons, List.append_assoc] at member
      rcases List.mem_append.mp member with inPiece | behind
      · exact .inr ⟨piece, .head _, inPiece⟩
      rcases List.mem_append.mp behind with inMark | inRest
      · exact .inl inMark
      · rcases inductionHypothesis inRest with inMark | ⟨other, among, inOther⟩
        · exact .inl inMark
        · exact .inr ⟨other, .tail _ among, inOther⟩

/-- Pieces are written with digits and colons. -/
theorem mem_piecesText {pieces : List Nat} {character : Char}
    (member : character ∈ (Host.piecesText pieces).toList) : character ∈ ':' :: pieceDigits := by
  rw [Host.piecesText, String.toList_intercalate, List.map_map] at member
  rcases mem_of_mem_intercalate member with inMark | ⟨digits, written, inDigits⟩
  · rw [List.mem_singleton.mp inMark]
    exact .head _
  · obtain ⟨piece, -, rfl⟩ := List.mem_map.mp written
    rw [Function.comp_apply, String.toList_ofList] at inDigits
    exact .tail _ (mem_pieceDigits piece _ inDigits)

/-- A 128-bit address is written with digits and colons. -/
theorem mem_address128Text {pieces : List Nat} {character : Char}
    (member : character ∈ (Host.address128Text pieces).toList) :
    character ∈ ':' :: pieceDigits := by
  rw [Host.address128Text] at member
  split at member
  rename_i start length gap
  split at member
  · exact mem_piecesText member
  · simp only [String.toList_append, List.mem_append] at member
    rcases member with (first | gap) | last
    · exact mem_piecesText first
    · have colons : ∀ mark ∈ "::".toList, mark ∈ ':' :: pieceDigits :=
        List.all_iff_forall_prop.mp (by decide)
      exact colons _ gap
    · exact mem_piecesText last

/-- A name on the web may contain digits. -/
theorem allowed_of_isDigit {character : Char} (digit : character.isDigit = true) :
    Host.isForbiddenInName character = false := by
  have all : ∀ value < 58, 48 ≤ value → Host.isForbiddenInName (Char.ofNat value) = false := by
    decide
  obtain ⟨low, high⟩ := Char.isDigit_iff_toNat.mp digit
  rw [← Char.ofNat_toNat character]
  exact all character.toNat (Nat.lt_succ_of_le high) low

/-- A 32-bit address is the text of a host. -/
theorem isHostText_address32 (value : Nat) : IsHostText (Host.address32Text value).toList := by
  have bytes : (Host.address32Text value).toList =
      ['.'].intercalate ((Host.addressBytes value).map (Nat.toDigits 10)) := by
    rw [Host.address32Text, String.toList_intercalate, List.map_map]
    exact congrArg _ (List.map_congr_left fun byte _ => Nat.toList_repr)
  refine .name ?_ fun character member => ?_
  · rw [bytes, Host.addressBytes]
    simp [List.intercalate_cons_cons, Nat.toDigits_ne_nil]
  · rw [bytes] at member
    rcases mem_of_mem_intercalate member with inMark | ⟨digits, written, inDigits⟩
    · rw [List.mem_singleton.mp inMark]
      decide
    · obtain ⟨byte, -, rfl⟩ := List.mem_map.mp written
      exact allowed_of_isDigit (Nat.isDigit_of_mem_toDigits (by decide) (by decide) inDigits)

/-- A name on the web that has been read is the text of a host. -/
theorem isHostText_of_webName {text name : List Char} (read : Host.webName? text = some name) :
    IsHostText name := by
  obtain ⟨decoded, -, mapped⟩ := Option.bind_eq_some_iff.mp read
  obtain ⟨candidate, -, checked⟩ := Option.bind_eq_some_iff.mp mapped
  split at checked
  · cases checked
  · rename_i acceptable
    obtain rfl := Option.some_inj.mp checked
    rw [not_or, List.isEmpty_iff, Bool.not_eq_true, List.any_eq_false] at acceptable
    exact .name acceptable.1 (by simpa using acceptable.2)

/-- The text of a host that has been read on the web is written. -/
theorem isHostText_of_read {text : List Char} {host : Host}
    (read : Host.read? true text = some host) : IsHostText host.text.toList := by
  unfold Host.read? at read
  split at read
  · split at read
    · obtain ⟨pieces, -, rfl⟩ := Option.map_eq_some_iff.mp read
      have bracketed : (Host.address128 pieces).text.toList =
          '[' :: (Host.address128Text pieces).toList ++ [']'] := by simp [Host.text]
      rw [bracketed]
      exact .pieces fun character => mem_address128Text
    · cases read
  · rw [if_pos rfl] at read
    obtain ⟨name, named, read⟩ := Option.bind_eq_some_iff.mp read
    split at read
    · obtain ⟨value, -, rfl⟩ := Option.map_eq_some_iff.mp read
      exact isHostText_address32 value
    · obtain rfl := Option.some_inj.mp read
      rw [Host.text, String.toList_ofList]
      exact isHostText_of_webName named

/-- A character of a host may stand in an address, and neither ends the host nor a user. -/
theorem IsHostText.inner {text : List Char} (written : IsHostText text) {character : Char}
    (member : character ∈ text) : IsInner character ∧ character ≠ '/' ∧ character ≠ '@' := by
  cases written with
  | name _ allowed =>
    obtain ⟨inner, noSlash, -, noAt, -⟩ := inner_of_allowed_in_name (allowed character member)
    exact ⟨inner, noSlash, noAt⟩
  | pieces digits =>
    have all : ∀ mark ∈ '[' :: ']' :: ':' :: pieceDigits,
        IsInner mark ∧ mark ≠ '/' ∧ mark ≠ '@' := List.all_iff_forall_prop.mp (by decide)
    refine all character ?_
    rcases List.mem_cons.mp member with rfl | behind
    · exact .head _
    rcases List.mem_append.mp behind with inside | last
    · exact .tail _ (.tail _ (digits character inside))
    · exact List.mem_singleton.mp last ▸ .tail _ (.head _)

/-- A host is not empty. -/
theorem IsHostText.ne_nil {text : List Char} (written : IsHostText text) : text ≠ [] := by
  cases written with
  | name nonempty _ => exact nonempty
  | pieces _ => exact List.cons_ne_nil _ _

/-- A host is cut off whole, whether a port is behind it or not. -/
theorem IsHostText.cutPort {text : List Char} (written : IsHostText text) :
    cutPort false text = (text, none) ∧
      ∀ behind, cutPort false (text ++ ':' :: behind) = (text, some behind) := by
  cases written with
  | name _ allowed =>
    refine cutPort_of_plain fun character member => ?_
    obtain ⟨-, -, noColon, -, noBracket, -⟩ := inner_of_allowed_in_name (allowed character member)
    exact ⟨noColon, noBracket⟩
  | pieces digits =>
    have unclosed : ∀ mark ∈ ':' :: pieceDigits, mark ≠ ']' :=
      List.all_iff_forall_prop.mp (by decide)
    exact cutPort_of_brackets fun character member => unclosed character (digits character member)

/-! ## Addresses -/

/-- An authority in its written form under a scheme. -/
structure Authority.IsWritten (scheme : String) (authority : Authority) : Prop where
  user : ∀ character ∈ authority.user.toList, isEscapedInUser character = false
  password : ∀ character ∈ authority.password.toList, isEscapedInUser character = false
  host : IsHostText authority.host.text.toList
  port : ∀ port ∈ authority.port, port ≤ 65535 ∧ defaultPorts.lookup scheme ≠ some port

/-- A path in its written form: segments, the last of which may be empty. -/
inductive Path.IsWritten : Path → Prop where
  | segments {names : List String} (nonempty : names ≠ [])
      (written : ∀ name ∈ names, IsSegment name) : IsWritten (.segments names)

/-- The schemes under which requests are made. -/
def IsRequestScheme (scheme : String) : Prop := scheme = "http" ∨ scheme = "https"

/-- An address for requests in its written form. -/
structure IsWritten (url : Url) : Prop where
  scheme : IsRequestScheme url.scheme
  authority : ∃ authority, url.authority = some authority ∧ authority.IsWritten url.scheme
  path : url.path.IsWritten
  query : ∀ query ∈ url.query, ∀ character ∈ query.toList, isEscapedInQuery true character = false
  fragment : ∀ fragment ∈ url.fragment, ∀ character ∈ fragment.toList,
    isEscapedInFragment character = false

end Syndication.Url
