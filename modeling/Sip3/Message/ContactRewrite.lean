import Mathlib.Data.UInt
import Sip3.Message.Forwarding
import Sip3.Text.Tokens

/-!
# What becomes of a contact

`routable_contact_uri` is applied twice on the way from a REGISTER to a call: to the Contact value,
and, by `registered_target_uri`, to the URI that was stored for it. Both times the host is
the address the request came from. The user and the parameters are read from the text: from the
brackets where the text starts with one, and otherwise from the whole text, where only known
parameters stay.
-/

namespace Sip3

open Text Str List

section Texts

variable {separator : Char} {pattern rest : Str}

theorem startsWith_before (without : separator ∉ pattern) (left right : Str) :
    startsWith (left ++ separator :: right) pattern = startsWith left pattern := by
  rw [startsWith, startsWith, Bool.eq_iff_iff, isPrefixOf_iff_prefix,
    isPrefixOf_iff_prefix]
  constructor
  · intro whole
    rcases prefix_or_prefix_of_prefix whole (prefix_append left _) with inside | longer
    · exact inside
    · obtain ⟨more, rfl⟩ := longer
      obtain ⟨rest, same⟩ := whole
      rw [append_assoc, append_cancel_left_eq] at same
      cases more with
      | nil => exact ⟨[], by simp⟩
      | cons char more =>
        obtain ⟨rfl, -⟩ := cons.inj same
        exact absurd (mem_append_right left (.head _)) without
  · exact fun inside => inside.trans (prefix_append _ _)

/-- Stripping a pattern without the separator ends before the separator. -/
theorem trimStartMatches_go_before (without : separator ∉ pattern) {left right : Str}
    {fuel more : Nat} (enough : left.length ≤ fuel)
    (plenty : (left ++ separator :: right).length ≤ more) :
    trimStartMatches.go pattern more (left ++ separator :: right) =
      trimStartMatches.go pattern fuel left ++ separator :: right := by
  induction more generalizing left fuel with
  | zero => simp at plenty
  | succ more ih =>
    unfold trimStartMatches.go
    rw [startsWith_before without]
    cases fuel with
    | zero =>
      obtain rfl := length_eq_zero_iff.mp (Nat.le_zero.mp enough)
      cases pattern with
      | nil => rfl
      | cons char others => rfl
    | succ fuel =>
      dsimp only
      split
      · rfl
      next nonempty =>
        split
        · next starts =>
          obtain ⟨rest, rfl⟩ := isPrefixOf_iff_prefix.mp starts
          have positive := length_pos_iff.mpr nonempty
          simp only [append_assoc, drop_left, length_append] at plenty enough ⊢
          exact ih (by omega) (by rw [length_append]; omega)
        · rfl

theorem trimStartMatches_before (without : separator ∉ pattern) (left right : Str) :
    trimStartMatches (left ++ separator :: right) pattern =
      trimStartMatches left pattern ++ separator :: right :=
  trimStartMatches_go_before without le_rfl le_rfl

theorem length_trimStartMatches_go_le (fuel : Nat) (rest : Str) :
    (trimStartMatches.go pattern fuel rest).length ≤ rest.length := by
  induction fuel generalizing rest with
  | zero => exact le_rfl
  | succ fuel ih =>
    unfold trimStartMatches.go
    split
    · exact le_rfl
    · split
      · exact (ih _).trans (drop_suffix _ _).length_le
      · exact le_rfl

/-- The pattern in front goes, and the rest is stripped. -/
theorem trimStartMatches_pattern (nonempty : pattern ≠ []) (rest : Str) :
    ∃ fuel, trimStartMatches (pattern ++ rest) pattern =
      trimStartMatches.go pattern fuel rest := by
  obtain ⟨first, others, rfl⟩ := exists_cons_of_ne_nil nonempty
  have starts : startsWith (first :: others ++ rest) (first :: others) = true :=
    isPrefixOf_iff_prefix.mpr (prefix_append _ _)
  refine ⟨(others ++ rest).length, ?_⟩
  unfold trimStartMatches
  rw [cons_append, length_cons, trimStartMatches.go, if_neg nonempty,
    ← cons_append, if_pos starts, drop_left]

theorem length_trimStartMatches_append_le (nonempty : pattern ≠ []) (rest : Str) :
    (trimStartMatches (pattern ++ rest) pattern).length ≤ rest.length := by
  obtain ⟨fuel, stripped⟩ := trimStartMatches_pattern nonempty rest
  rw [stripped]
  exact length_trimStartMatches_go_le fuel rest

theorem trimStartMatches_go_eq_self (ends : startsWith rest pattern = false) (fuel : Nat) :
    trimStartMatches.go pattern fuel rest = rest := by
  cases fuel with
  | zero => rfl
  | succ fuel =>
    rw [trimStartMatches.go, if_neg (ne_true_of_eq_false ends)]
    split <;> rfl

theorem trimStartMatches_append (nonempty : pattern ≠ [])
    (ends : startsWith rest pattern = false) :
    trimStartMatches (pattern ++ rest) pattern = rest := by
  obtain ⟨fuel, stripped⟩ := trimStartMatches_pattern nonempty rest
  rw [stripped, trimStartMatches_go_eq_self ends]

theorem trimStartMatches_eq_self (ends : startsWith rest pattern = false) :
    trimStartMatches rest pattern = rest :=
  trimStartMatches_go_eq_self ends _

theorem split_before {left : Str} (absent : separator ∉ left) (right : Str) :
    split separator (left ++ separator :: right) = left :: split separator right :=
  splitOn_append_cons_self_of_not_mem absent _

theorem split_flatMap {head : Str} {pieces : List Str} (first : separator ∉ head)
    (others : ∀ piece ∈ pieces, separator ∉ piece) :
    split separator (head ++ pieces.flatMap fun piece => separator :: piece) =
      head :: pieces := by
  induction pieces generalizing head with
  | nil =>
    rw [flatMap_nil, append_nil]
    exact split_of_not_mem first
  | cons piece pieces ih =>
    have later := ih (others piece (.head _)) fun other member => others other (.tail _ member)
    rw [flatMap_cons, cons_append, split_before first, later]

end Texts

/-- The user that `routable_contact_uri` writes. -/
def userOr (username uri : Str) : Str :=
  ((uriUsername uri).filter (· ≠ [])).getD username

/-- The scheme that `routable_contact_uri` writes, with its colon. -/
def leadOf (uri : Str) : Str :=
  if Str.startsWith (Str.toAsciiLowercase uri) "sips:".toList then "sips:".toList
  else "sip:".toList

theorem routableContactUri_eq (platform : Platform) (contact username : Str) (src : SocketAddr) :
    routableContactUri platform contact username src =
      leadOf (contactUriPreservingUriParams contact) ++
        userOr username (contactUriPreservingUriParams contact) ++
        '@' :: (socketAddrUriHostPort platform src ++
          uriParamSuffix (contactUriPreservingUriParams contact)) := by
  unfold routableContactUri leadOf
  dsimp only
  split <;> simp [userOr]

theorem withoutScheme_before {separator : Char} (sip : separator ∉ "sip:".toList)
    (sips : separator ∉ "sips:".toList) (left right : Str) :
    withoutScheme (left ++ separator :: right) = withoutScheme left ++ separator :: right := by
  rw [withoutScheme, trimStartMatches_before sip, trimStartMatches_before sips]
  rfl

theorem withoutScheme_subset (uri : Str) : withoutScheme uri ⊆ uri :=
  List.Subset.trans (trimStartMatches_subset _ _) (trimStartMatches_subset _ _)

theorem split_head (separator : Char) (text : Str) :
    ∃ rest, split separator text = text.takeWhile (· ≠ separator) :: rest := by
  by_cases member : separator ∈ text
  · obtain ⟨left, right, rfl, clean⟩ := eq_append_cons_of_mem member
    have before : ∀ char ∈ left, decide (char ≠ separator) = true :=
      fun char inside => decide_eq_true fun same => clean (same ▸ inside)
    refine ⟨split separator right, ?_⟩
    rw [split_before clean, takeWhile_append_of_pos before]
    simp
  · have all : ∀ char ∈ text, decide (char ≠ separator) = true :=
      fun char inside => decide_eq_true fun same => member (same ▸ inside)
    rw [split_of_not_mem member, takeWhile_eq_self_iff.mpr all]
    exact ⟨[], rfl⟩

/-- The user of a URI with an `@` is what stands before it. -/
theorem uriUsername_before {left : Str} (absent : '@' ∉ left) (right : Str) :
    uriUsername (left ++ '@' :: right) = some (withoutScheme left) := by
  have clean : '@' ∉ withoutScheme left := fun member => absent (withoutScheme_subset left member)
  rw [uriUsername, withoutScheme_before (by decide) (by decide), if_pos (by simp), split_before clean]
  rfl

theorem uriUsername_of_absent {uri : Str} (absent : '@' ∉ uri) : uriUsername uri = none :=
  if_neg fun member => absent (withoutScheme_subset uri member)

theorem userOr_before {left : Str} (absent : '@' ∉ left) (username right : Str) :
    userOr username (left ++ '@' :: right) =
      if withoutScheme left = [] then username else withoutScheme left := by
  rw [userOr, uriUsername_before absent, Option.filter_some]
  by_cases empty : withoutScheme left = [] <;> simp [empty]

theorem userOr_of_absent {uri : Str} (absent : '@' ∉ uri) (username : Str) :
    userOr username uri = username := by
  rw [userOr, uriUsername_of_absent absent]
  rfl

/-- No user has an `@`. -/
theorem userOr_absent {username : Str} (absent : '@' ∉ username) (uri : Str) :
    '@' ∉ userOr username uri := by
  by_cases member : '@' ∈ uri
  · obtain ⟨left, right, rfl, clean⟩ := eq_append_cons_of_mem member
    rw [userOr_before clean]
    split
    · exact absent
    · exact fun inside => clean (withoutScheme_subset left inside)
  · rwa [userOr_of_absent member]

theorem leadOf_named (uri : Str) :
    leadOf uri = "sip:".toList ∨ leadOf uri = "sips:".toList := by
  unfold leadOf
  split
  · exact .inr rfl
  · exact .inl rfl

theorem leadOf_absent (uri : Str) : '@' ∉ leadOf uri := by
  rcases leadOf_named uri with named | named <;> rw [named] <;> decide

theorem uriParamSuffix_suffix (uri : Str) : uriParamSuffix uri <:+ uri := by
  have stripped : ((stripLead uri "sip:".toList).or (stripLead uri "sips:".toList)).getD uri
      <:+ uri := by
    unfold stripLead
    split
    · exact drop_suffix _ _
    · split
      · exact drop_suffix _ _
      · exact suffix_refl _
  unfold uriParamSuffix
  refine (dropWhile_suffix _).trans ?_
  split
  · next front rest cut =>
    obtain ⟨whole, -⟩ := splitOnce_eq_some cut
    refine List.IsSuffix.trans ?_ stripped
    rw [whole]
    exact ⟨front ++ ['@'], by simp⟩
  · exact stripped

/-- A suffix is empty or starts with a semicolon. -/
theorem head_dropWhile {text : Str} : ∀ char ∈ (text.dropWhile (· ≠ ';')).head?, char = ';' := by
  intro char first
  simpa using head?_dropWhile char first

theorem uriParamSuffix_head (uri : Str) : ∀ char ∈ (uriParamSuffix uri).head?, char = ';' :=
  head_dropWhile

/-- The characters of an address in a URI. -/
theorem socketAddrUriHostPort_chars (platform : Platform) (addr : SocketAddr) :
    ∀ char ∈ socketAddrUriHostPort platform addr,
      char ∈ '[' :: ']' :: '.' :: ':' :: hexDigits := by
  have ip : ∀ char ∈ platform.ipText addr.ip, char ∈ '[' :: ']' :: '.' :: ':' :: hexDigits :=
    fun char member => .tail _ (.tail _ (platform.ipText_chars _ char member))
  have port : ∀ char ∈ ofNat addr.port.toNat,
      char ∈ '[' :: ']' :: '.' :: ':' :: hexDigits := fun char member =>
    .tail _ (.tail _ (.tail _ (.tail _
      (mem_hexDigits_of_mem_toDigits (by decide) (by decide) member))))
  intro char member
  unfold socketAddrUriHostPort at member
  split at member
  · simp only [Sdp.hostPort, mem_append, mem_cons] at member
    rcases member with inIp | rfl | inPort
    · exact ip char inIp
    · decide
    · exact port char inPort
  · simp only [Sdp.hostPort, mem_append, mem_cons] at member
    rcases member with ((rfl | inIp) | bracket) | rfl | inPort
    · decide
    · exact ip char inIp
    · obtain rfl : char = ']' := by simpa using bracket
      decide
    · decide
    · exact port char inPort

theorem socketAddrUriHostPort_absent (platform : Platform) (addr : SocketAddr) {mark : Char}
    (other : mark ∉ '[' :: ']' :: '.' :: ':' :: hexDigits) :
    mark ∉ socketAddrUriHostPort platform addr :=
  fun member => other (socketAddrUriHostPort_chars platform addr mark member)

/-- A host is read up to the first parameter. -/
theorem takeWhile_host {host suffix : Str} {mark : Char} (clean : mark ∉ host)
    (ends : ∀ char ∈ suffix.head?, char = ';') :
    ∃ rest, (host ++ suffix).takeWhile (· ≠ mark) = host ++ rest ∧
      ∀ char ∈ rest.head?, char = ';' := by
  have before : ∀ char ∈ host, decide (char ≠ mark) = true :=
    fun char inside => decide_eq_true fun same => clean (same ▸ inside)
  rw [takeWhile_append_of_pos before]
  refine ⟨_, rfl, ?_⟩
  cases suffix with
  | nil => nofun
  | cons first rest =>
    intro char found
    rw [takeWhile_cons] at found
    split at found
    · cases found
      exact ends _ rfl
    · cases found

/-- Whatever a contact says, the host of the URI made from it is the source. -/
theorem uriHost_routableContactUri (platform : Platform) (contact : Str) {username : Str}
    (plain : '@' ∉ username) (src : SocketAddr) :
    uriHost (routableContactUri platform contact username src) =
      some (socketAddrUriHostPort platform src) := by
  set uri := contactUriPreservingUriParams contact with uriDef
  set host := socketAddrUriHostPort platform src with hostDef
  have clean : ∀ mark ∉ '[' :: ']' :: '.' :: ':' :: Str.hexDigits, mark ∉ host :=
    fun mark other => socketAddrUriHostPort_absent platform src other
  have front : '@' ∉ withoutScheme (leadOf uri ++ userOr username uri) := fun member =>
    (List.mem_append.mp (withoutScheme_subset _ member)).elim (leadOf_absent uri)
      (userOr_absent plain uri)
  obtain ⟨others, pieces⟩ := split_head '@' (host ++ uriParamSuffix uri)
  obtain ⟨rest, part, ends⟩ := takeWhile_host (clean '@' (by decide)) (uriParamSuffix_head uri)
  rw [routableContactUri_eq, ← uriDef, ← hostDef, uriHost,
    withoutScheme_before (by decide) (by decide), if_pos (by simp), split_before front, pieces, part]
  -- What follows the host starts with a semicolon, if there is anything.
  obtain ⟨others, pieces⟩ := split_head ';' (host ++ rest)
  have hostOnly : (host ++ rest).takeWhile (· ≠ ';') = host := by
    have before : ∀ char ∈ host, decide (char ≠ ';') = true := fun char inside =>
      decide_eq_true fun same => clean ';' (by decide) (same ▸ inside)
    rw [List.takeWhile_append_of_pos before]
    cases rest with
    | nil => simp
    | cons char rest => simp [ends char rfl]
  have query := Str.split_of_not_mem (clean '?' (by decide))
  simp only [List.getD_cons_succ, List.getD_cons_zero, pieces, hostOnly, List.headD_cons, query]

theorem uriHost_routableContactUri_sample :
    uriHost (routableContactUri (Platform.ascii fun _ => none) "<sip:x@evil@other;a@b".toList
      "100".toList ⟨.v4 0, 5060⟩) =
      some (socketAddrUriHostPort (Platform.ascii fun _ => none) ⟨.v4 0, 5060⟩) :=
  uriHost_routableContactUri _ _ (by decide) _

section Reading

/-- Parameters with their separators. -/
def paramsText (params : List Str) : Str :=
  params.flatMap fun param => ';' :: param

theorem append_inj_before {separator : Char} {left left' right right' : Str}
    (absent : separator ∉ left) (absent' : separator ∉ left')
    (same : left ++ separator :: right = left' ++ separator :: right') :
    left = left' ∧ right = right' := by
  have cut := congrArg (splitOnce separator) same
  rw [splitOnce_append absent, splitOnce_append absent'] at cut
  exact Prod.mk.inj (Option.some.inj cut)

/-- White space after a solid text is trimmed in what follows it. -/
theorem trim_append {lead : Str} (nonempty : lead ≠ [])
    (first : ∀ char ∈ lead.head?, isWhitespace char = false)
    (last : ∀ char ∈ lead.getLast?, isWhitespace char = false) (rest : Str) :
    trim (lead ++ rest) = lead ++ trimEnd rest := by
  obtain ⟨char, others, rfl⟩ := exists_cons_of_ne_nil nonempty
  have front : trimStart (char :: others ++ rest) = char :: others ++ rest := by
    rw [trimStart, cons_append, dropWhile_cons_of_neg (by simp [first char rfl])]
  have back : (char :: others).reverse.dropWhile isWhitespace = (char :: others).reverse := by
    cases flipped : (char :: others).reverse with
    | nil => rfl
    | cons final before =>
      have ends : (char :: others).getLast? = some final := by
        rw [← head?_reverse, flipped]
        rfl
      rw [dropWhile_cons_of_neg (by simp [last final ends])]
  rw [trim, front, trimEnd, trimEnd, rdropWhile, rdropWhile,
    reverse_append, dropWhile_append, back]
  split
  · next empty => rw [isEmpty_iff.mp empty]; simp
  · simp

theorem contactUriPreservingUriParams_bare {contact : Str}
    (bare : startsWith (trimStart contact) ['<'] = false) :
    contactUriPreservingUriParams contact = contactUriPreservingUriParams.fromParts contact := by
  unfold contactUriPreservingUriParams
  split
  · rw [if_neg (ne_true_of_eq_false bare)]
  · rfl

/-- What a text starts with stays when its parts are read. -/
theorem fromParts_append {lead : Str} (nonempty : lead ≠ []) (clean : ';' ∉ lead)
    (first : ∀ char ∈ lead.head?, isWhitespace char = false)
    (last : ∀ char ∈ lead.getLast?, isWhitespace char = false) (rest : Str) :
    ∃ more, contactUriPreservingUriParams.fromParts (lead ++ rest) = lead ++ more := by
  obtain ⟨params, pieces⟩ := split_head ';' (lead ++ trimEnd rest)
  have before : ∀ char ∈ lead, decide (char ≠ ';') = true :=
    fun char inside => decide_eq_true fun same => clean (same ▸ inside)
  rw [takeWhile_append_of_pos before] at pieces
  rw [contactUriPreservingUriParams.fromParts, trim_append nonempty first last, pieces]
  dsimp only
  rw [trim_append nonempty first last, append_assoc]
  exact ⟨_, rfl⟩

/-- A text with a mark before any `@` has no user without the mark. -/
theorem mem_userOr (username : Str) {front : Str} (rest : Str) {mark : Char} (clean : '@' ∉ front)
    (sip : mark ∉ "sip:".toList) (sips : mark ∉ "sips:".toList)
    (other : mark ≠ '@') :
    userOr username (front ++ mark :: rest) = username ∨
      mark ∈ userOr username (front ++ mark :: rest) := by
  by_cases member : '@' ∈ rest
  · obtain ⟨left, right, rfl, before⟩ := eq_append_cons_of_mem member
    right
    have shape : front ++ mark :: (left ++ '@' :: right) =
        (front ++ mark :: left) ++ '@' :: right := by
      simp
    have absent : '@' ∉ front ++ mark :: left := by simp [clean, before, other.symm]
    have whole : withoutScheme (front ++ mark :: left) = withoutScheme front ++ mark :: left :=
      withoutScheme_before sip sips _ _
    rw [shape, userOr_before absent, whole, if_neg (by simp)]
    simp
  · left
    exact userOr_of_absent (by simp [clean, member, other.symm]) username

end Reading

/-! ### Contacts with a display name -/

/-- A display name as it is written before the bracket: a word or a quoted text, and white space. -/
inductive IsDisplayName : Str → Prop
  | token {name gap : Str} (some : name ≠ [])
      (plain : ∀ char ∈ name, isWhitespace char = false ∧ char ∉ "<>@;:\"".toList)
      (blank : ∀ char ∈ gap, isWhitespace char = true) : IsDisplayName (name ++ gap)
  | quoted {inside gap : Str} (plain : '<' ∉ inside ∧ '>' ∉ inside)
      (blank : ∀ char ∈ gap, isWhitespace char = true) :
      IsDisplayName ('"' :: (inside ++ '"' :: gap))

/-- A Contact value in the form of a name and an address. -/
structure NameAddr where
  display : Option Str
  scheme : Str
  user : Str
  host : Str
  params : List Str
  headerParams : List Str
  display_form : ∀ name ∈ display, IsDisplayName name
  scheme_named : Str.toAsciiLowercase scheme = "sip".toList ∨
    Str.toAsciiLowercase scheme = "sips".toList
  user_ne : user ≠ []
  user_plain : ∀ char ∈ user, isWhitespace char = false ∧ char ∉ "@:<>\"".toList
  host_plain : ∀ char ∈ host, isWhitespace char = false ∧ char ∉ "@;<>\"".toList
  params_plain : ∀ param ∈ params, ∀ char ∈ param,
    isWhitespace char = false ∧ char ∉ ";<>\"".toList

namespace NameAddr

variable (addr : NameAddr)

/-- The URI with a host. -/
def uri (host : Str) : Str :=
  addr.scheme ++ ':' :: (addr.user ++ '@' :: (host ++ paramsText addr.params))

/-- The value as it is written. -/
def text : Str :=
  addr.display.getD [] ++ '<' :: (addr.uri addr.host ++ '>' :: paramsText addr.headerParams)

theorem scheme_letters : ∀ char ∈ addr.scheme, 65 ≤ char.toNat ∧ char.toNat ≤ 122 := by
  have letters : ∀ char ∈ toAsciiLowercase addr.scheme, 97 ≤ char.toNat ∧ char.toNat ≤ 122 := by
    rcases addr.scheme_named with named | named <;> rw [named] <;>
      exact forall_mem_of_all (by decide)
  intro char member
  have lower := letters _ (mem_map_of_mem member)
  by_cases upper : char.val ≥ 'A'.val ∧ char.val ≤ 'Z'.val
  · have low : 65 ≤ char.toNat := UInt32.le_iff_toNat_le.mp upper.1
    have high : char.toNat ≤ 90 := UInt32.le_iff_toNat_le.mp upper.2
    omega
  · have same : char.toLower = char := dif_neg upper
    rw [same] at lower
    omega

theorem scheme_absent {mark : Char} (small : mark.toNat < 65) : mark ∉ addr.scheme := by
  intro member
  have := (addr.scheme_letters mark member).1
  omega

theorem user_absent {mark : Char} (listed : mark ∈ "@:<>\"".toList) : mark ∉ addr.user :=
  fun member => (addr.user_plain mark member).2 listed

theorem uri_solid : ∀ char ∈ addr.uri addr.host, isWhitespace char = false ∧ char ≠ '>' := by
  have named : ∀ char ∈ addr.scheme, isWhitespace char = false ∧ char ≠ '>' := by
    intro char member
    obtain ⟨low, high⟩ := addr.scheme_letters char member
    refine ⟨?_, fun same => by rw [same] at low; exact absurd low (by decide)⟩
    simp only [isWhitespace, Bool.or_eq_false_iff, Bool.and_eq_false_iff, decide_eq_false_iff_not,
      beq_eq_false_iff_ne]
    omega
  intro char member
  simp only [uri, paramsText, mem_append, mem_cons, mem_flatMap] at member
  rcases member with inScheme | rfl | inUser | rfl | inHost | ⟨param, listed, rfl | inParam⟩
  · exact named char inScheme
  · decide
  · refine ⟨(addr.user_plain char inUser).1, fun same => ?_⟩
    exact addr.user_absent (by decide) (same ▸ inUser)
  · decide
  · refine ⟨(addr.host_plain char inHost).1, fun same => (addr.host_plain char inHost).2 ?_⟩
    rw [same]
    decide
  · decide
  · have plain := addr.params_plain param listed char inParam
    refine ⟨plain.1, fun same => plain.2 ?_⟩
    rw [same]
    decide

section Bracket

variable {addr} (bare : addr.display = none)
  (lower : addr.scheme = "sip".toList ∨ addr.scheme = "sips".toList)

include bare in
theorem contactUri_text : contactUriPreservingUriParams addr.text = addr.uri addr.host := by
  have written : addr.text = '<' :: (addr.uri addr.host ++ '>' :: paramsText addr.headerParams) := by
    rw [text, bare]
    rfl
  have before : ∀ char ∈ addr.uri addr.host, decide (char ≠ '>') = true :=
    fun char member => decide_eq_true (addr.uri_solid char member).2
  have inside : bracketed addr.text = some (addr.uri addr.host) := by
    rw [written, bracketed, List.dropWhile_cons_of_neg (by decide)]
    dsimp only
    rw [if_pos (by simp), List.takeWhile_append_of_pos before]
    simp
  have starts : Str.startsWith (Str.trimStart addr.text) ['<'] = true := by
    rw [written]
    rfl
  rw [contactUriPreservingUriParams, extractUri, inside]
  dsimp only
  rw [if_pos starts, Str.trim_eq_self fun char member => (addr.uri_solid char member).1]

include lower in
theorem leadOf_uri (host : Str) : leadOf (addr.uri host) = addr.scheme ++ [':'] := by
  rcases lower with named | named <;> rw [leadOf, uri, named] <;> rfl

include lower in
theorem userOr_uri (username host : Str) : userOr username (addr.uri host) = addr.user := by
  have strange : ∀ pattern : Str, ':' ∈ pattern → Str.startsWith addr.user pattern = false := by
    intro pattern colon
    refine Bool.eq_false_iff.mpr fun starts => ?_
    exact addr.user_absent (by decide) ((List.isPrefixOf_iff_prefix.mp starts).subset colon)
  have stripped : withoutScheme (addr.scheme ++ ':' :: addr.user) = addr.user := by
    rcases lower with named | named <;> rw [named, withoutScheme]
    · rw [show "sip".toList ++ ':' :: addr.user = "sip:".toList ++ addr.user from rfl,
        trimStartMatches_append (by decide) (strange _ (by decide)),
        trimStartMatches_eq_self (strange _ (by decide))]
    · have other : Str.startsWith ("sips".toList ++ ':' :: addr.user) "sip:".toList = false := rfl
      rw [trimStartMatches_eq_self other,
        show "sips".toList ++ ':' :: addr.user = "sips:".toList ++ addr.user from rfl,
        trimStartMatches_append (by decide) (strange _ (by decide))]
  have clean : '@' ∉ addr.scheme ++ ':' :: addr.user := by
    simp [addr.scheme_absent (show ('@' : Char).toNat < 65 by decide),
      addr.user_absent (show '@' ∈ "@:<>\"".toList by decide)]
  rw [show addr.uri host = (addr.scheme ++ ':' :: addr.user) ++
    '@' :: (host ++ paramsText addr.params) by simp [uri], userOr_before clean, stripped,
    if_neg addr.user_ne]

include lower in
theorem uriParamSuffix_uri : uriParamSuffix (addr.uri addr.host) = paramsText addr.params := by
  have stripped : (((addr.uri addr.host).stripLead "sip:".toList).or
      ((addr.uri addr.host).stripLead "sips:".toList)).getD (addr.uri addr.host) =
        addr.user ++ '@' :: (addr.host ++ paramsText addr.params) := by
    rcases lower with named | named <;> rw [uri, named] <;> rfl
  have before : ∀ char ∈ addr.host, decide (char ≠ ';') = true := by
    intro char member
    refine decide_eq_true fun same => (addr.host_plain char member).2 ?_
    rw [same]
    decide
  rw [uriParamSuffix, stripped, Str.splitOnce_append (addr.user_absent (by decide))]
  dsimp only
  rw [List.dropWhile_append_of_pos before, paramsText]
  cases addr.params with
  | nil => rfl
  | cons param params =>
    rw [List.flatMap_cons, List.cons_append, List.dropWhile_cons_of_neg (by decide)]

end Bracket

/-- Before the address stands a name, up to a mark that no user has. -/
theorem text_display {name : Str} (display : addr.display = some name) :
    ∃ front mark rest, addr.text = front ++ mark :: rest ∧ ';' ∉ front ∧ '@' ∉ front ∧
      (∀ char ∈ (front ++ [mark]).head?, isWhitespace char = false ∧ char ≠ '<') ∧
      (mark = '"' ∨ mark = '<') := by
  have written : addr.text =
      name ++ '<' :: (addr.uri addr.host ++ '>' :: paramsText addr.headerParams) := by
    rw [text, display]
    rfl
  cases addr.display_form name display with
  | @token word gap nonempty plain blank =>
    have absent : ∀ mark ∈ "<>@;:\"".toList, isWhitespace mark = false → mark ∉ word ++ gap := by
      intro mark listed solid member
      rcases mem_append.mp member with inWord | inGap
      · exact (plain mark inWord).2 listed
      · exact Bool.false_ne_true (solid.symm.trans (blank mark inGap))
    refine ⟨word ++ gap, '<', _, written, absent _ (by decide) (by decide),
      absent _ (by decide) (by decide), ?_, .inr rfl⟩
    obtain ⟨char, others, rfl⟩ := exists_cons_of_ne_nil nonempty
    rintro _ ⟨⟩
    refine ⟨(plain char (.head _)).1, ?_⟩
    rintro rfl
    exact (plain _ (.head _)).2 (by decide)
  | quoted plain blank =>
    refine ⟨[], '"', _, written, not_mem_nil, not_mem_nil, ?_, .inl rfl⟩
    rintro _ ⟨⟩
    decide

/-- With a display name the whole text is read, and the user is not the user of the URI. -/
theorem userOr_display {name : Str} (display : addr.display = some name) :
    userOr [':'] (contactUriPreservingUriParams addr.text) ≠ addr.user := by
  obtain ⟨front, mark, rest, whole, semicolon, clean, first, marks⟩ := addr.text_display display
  have outside : isWhitespace mark = false ∧ mark ≠ ';' ∧ mark ≠ '@' ∧ mark ∉ "sip:".toList ∧
      mark ∉ "sips:".toList ∧ mark ∈ "@:<>\"".toList := by
    rcases marks with rfl | rfl <;> decide
  obtain ⟨solid, notSemicolon, notAt, sip, sips, listed⟩ := outside
  have bare : startsWith (trimStart addr.text) ['<'] = false := by
    rw [whole]
    cases front with
    | nil =>
      obtain ⟨space, other⟩ := first mark rfl
      simp [trimStart, startsWith, isPrefixOf, space, other.symm]
    | cons char front =>
      obtain ⟨space, other⟩ := first char rfl
      simp [trimStart, startsWith, isPrefixOf, space, other.symm]
  have lead : front ++ [mark] ≠ [] := by simp
  obtain ⟨more, parts⟩ := fromParts_append lead (by simp [semicolon, notSemicolon.symm])
    (fun char found => (first char found).1) (by simpa using solid) rest
  rw [append_assoc, singleton_append, append_assoc, singleton_append] at parts
  rw [contactUriPreservingUriParams_bare bare, whole, parts]
  rcases mem_userOr [':'] more clean sip sips notAt with fallback | marked
  · rw [fallback]
    intro same
    exact addr.user_absent (show ':' ∈ "@:<>\"".toList by decide) (same ▸ .head _)
  · intro same
    exact addr.user_absent listed (same ▸ marked)

/-- The stored contact is the URI with the source as its host, for every fallback and source,
exactly when there is no display name and the scheme is in lower case. -/
theorem routableContactUri_nameAddr_iff (platform : Platform) :
    (∀ username src, routableContactUri platform addr.text username src =
      addr.uri (socketAddrUriHostPort platform src)) ↔
    addr.display = none ∧ (addr.scheme = "sip".toList ∨ addr.scheme = "sips".toList) := by
  constructor
  case mp =>
    intro rewritten
    have same := rewritten [':'] ⟨.v4 0, 0⟩
    rw [routableContactUri_eq] at same
    set lead := leadOf (contactUriPreservingUriParams addr.text) with leadDef
    set user := userOr [':'] (contactUriPreservingUriParams addr.text) with userDef
    have shape : addr.uri (socketAddrUriHostPort platform ⟨.v4 0, 0⟩) =
        (addr.scheme ++ ':' :: addr.user) ++ '@' ::
          (socketAddrUriHostPort platform ⟨.v4 0, 0⟩ ++ paramsText addr.params) := by
      simp [uri]
    have front : '@' ∉ lead ++ user := fun member =>
      (List.mem_append.mp member).elim (leadOf_absent _) (userOr_absent (by decide) _)
    have front' : '@' ∉ addr.scheme ++ ':' :: addr.user := by
      simp [addr.scheme_absent (show ('@' : Char).toNat < 65 by decide),
        addr.user_absent (show '@' ∈ "@:<>\"".toList by decide)]
    have heads := (append_inj_before front front' (same.trans shape)).1
    have colon := addr.scheme_absent (show (':' : Char).toNat < 65 by decide)
    obtain ⟨word, named, absent, ended⟩ : ∃ word : Str,
        (word = "sip".toList ∨ word = "sips".toList) ∧ ':' ∉ word ∧ lead = word ++ [':'] := by
      rcases leadOf_named (contactUriPreservingUriParams addr.text) with sip | sips
      · exact ⟨"sip".toList, .inl rfl, by decide, sip⟩
      · exact ⟨"sips".toList, .inr rfl, by decide, sips⟩
    rw [ended, List.append_assoc, List.singleton_append] at heads
    obtain ⟨schemes, users⟩ := append_inj_before absent colon heads
    refine ⟨?_, schemes ▸ named⟩
    cases display : addr.display with
    | none => rfl
    | some name => exact absurd users (addr.userOr_display display)
  case mpr =>
    rintro ⟨bare, lower⟩ username src
    rw [routableContactUri_eq, contactUri_text bare, leadOf_uri lower, userOr_uri lower,
      uriParamSuffix_uri lower]
    simp [uri]

/-- A contact for the user `b`, with or without a display name. -/
def sample (display : Option Str) (form : ∀ name ∈ display, IsDisplayName name) : NameAddr where
  display := display
  scheme := "sip".toList
  user := "b".toList
  host := "h".toList
  params := ["transport=tls".toList]
  headerParams := []
  display_form := form
  scheme_named := .inl (by decide)
  user_ne := by decide
  user_plain := Str.forall_mem_of_all (by decide)
  host_plain := Str.forall_mem_of_all (by decide)
  params_plain := by
    rintro _ (_ | ⟨_, ⟨⟩⟩)
    exact Str.forall_mem_of_all (by decide)

theorem sample_named : ∀ name ∈ some "Bob ".toList, IsDisplayName name := by
  rintro _ ⟨⟩
  exact @IsDisplayName.token "Bob".toList " ".toList (by decide)
    (forall_mem_of_all (by decide)) (forall_mem_of_all (by decide))

/-- `Bob <sip:b@h;transport=tls>` is stored with the name in the user. -/
theorem routableContactUri_displayName :
    (sample (some "Bob ".toList) sample_named).text = "Bob <sip:b@h;transport=tls>".toList ∧
    routableContactUri (Platform.ascii fun _ => none)
        (sample (some "Bob ".toList) sample_named).text "b".toList ⟨.v4 0, 5060⟩ ≠
      (sample (some "Bob ".toList) sample_named).uri
        (socketAddrUriHostPort (Platform.ascii fun _ => none) ⟨.v4 0, 5060⟩) := by
  constructor <;> decide

end NameAddr

end Sip3
