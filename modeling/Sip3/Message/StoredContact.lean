import Sip3.Message.ContactRewrite

/-!
# Reading a stored contact again

The URI that a REGISTER leaves in the database has no brackets, so a call reads it by its parts.
Parameters that were kept in the first reading because they stood in brackets are dropped in the
second one when they are not known. The two readings agree exactly when every part is known and
written without white space around it, and the user is found again.
-/

namespace Sip3

open Text Str List

section Params

/-- Whether a parameter is kept outside brackets. -/
def knownParam (param : Str) : Bool :=
  isContactUriParam (uriParamKey param)

/-- What is kept of the parameters outside brackets. -/
def keptParams (params : List Str) : Str :=
  paramsText ((params.filter knownParam).map Str.trim)

/-- A parameter that is kept as it is. -/
def KeptParam (param : Str) : Prop :=
  knownParam param = true ∧ Str.trim param = param

variable {params others : List Str} {text : Str}

theorem paramsText_append (params others : List Str) :
    paramsText (params ++ others) = paramsText params ++ paramsText others :=
  flatMap_append

theorem keptParams_append (params others : List Str) :
    keptParams (params ++ others) = keptParams params ++ keptParams others := by
  rw [keptParams, filter_append, map_append, paramsText_append]
  rfl

theorem fromParts_split {contact first : Str}
    (pieces : split ';' (trim contact) = first :: params) :
    contactUriPreservingUriParams.fromParts contact = trim first ++ keptParams params := by
  rw [contactUriPreservingUriParams.fromParts, pieces, keptParams, paramsText, flatMap_map]
  rfl

/-- A text is its first part and the others with their separators. -/
theorem exists_parts (text : Str) : ∃ first others, split ';' text = first :: others ∧
    text = first ++ paramsText others ∧ ';' ∉ first ∧ ∀ other ∈ others, ';' ∉ other := by
  by_cases member : ';' ∈ text
  · obtain ⟨left, right, rfl, clean⟩ := eq_append_cons_of_mem member
    obtain ⟨first, others, pieces, whole, head, tail⟩ := exists_parts right
    refine ⟨left, first :: others, ?_, ?_, clean, forall_mem_cons.mpr ⟨head, tail⟩⟩
    · rw [split_before clean, pieces]
    · rw [paramsText, flatMap_cons, ← paramsText, cons_append, ← whole]
  · exact ⟨text, [], split_of_not_mem member, by simp [paramsText], member, forall_mem_nil _⟩
termination_by text.length
decreasing_by simp_all; omega

theorem paramsText_inj (first : ∀ param ∈ params, ';' ∉ param) (second : ∀ param ∈ others, ';' ∉ param)
    (same : paramsText params = paramsText others) : params = others := by
  have pieces : ∀ {list : List Str}, (∀ param ∈ list, ';' ∉ param) →
      split ';' (paramsText list) = [] :: list :=
    fun clean => split_flatMap not_mem_nil clean
  have both := (pieces first).symm.trans ((congrArg (split ';') same).trans (pieces second))
  exact (cons.inj both).2

theorem trimmed_clean (clean : ∀ param ∈ params, ';' ∉ param) :
    ∀ param ∈ (params.filter knownParam).map trim, ';' ∉ param := by
  intro param member
  obtain ⟨written, listed, rfl⟩ := mem_map.mp member
  exact fun inside => clean written (mem_of_mem_filter listed) (trim_subset _ inside)

theorem map_trim_eq_self_iff :
    (params.filter knownParam).map trim = params ↔ ∀ param ∈ params, KeptParam param := by
  constructor
  · intro same
    have size := congrArg length same
    rw [length_map, length_filter_eq_length_iff] at size
    rw [filter_eq_self.mpr size] at same
    exact fun param listed => ⟨size param listed,
      map_inj_left.mp (same.trans (map_id params).symm) param listed⟩
  · intro kept
    rw [filter_eq_self.mpr fun param listed => (kept param listed).1]
    exact (map_congr_left fun param listed => (kept param listed).2).trans (map_id _)

theorem keptParams_eq_iff (clean : ∀ param ∈ params, ';' ∉ param) :
    keptParams params = paramsText params ↔ ∀ param ∈ params, KeptParam param := by
  rw [← map_trim_eq_self_iff]
  exact ⟨paramsText_inj (trimmed_clean clean) clean, congrArg paramsText⟩

theorem length_keptParams_le (params : List Str) :
    (keptParams params).length ≤ (paramsText params).length := by
  induction params with
  | nil => exact le_rfl
  | cons param params ih =>
    have short : (trim param).length ≤ param.length :=
      ((List.rdropWhile_prefix _ _).length_le).trans (dropWhile_suffix _).length_le
    rw [← singleton_append, keptParams_append, paramsText_append, length_append,
      length_append]
    refine Nat.add_le_add ?_ ih
    by_cases known : knownParam param = true <;> simp [keptParams, paramsText, known, short]

theorem dropWhile_paramsText (clean : ';' ∉ text) (params : List Str) :
    (text ++ paramsText params).dropWhile (· ≠ ';') = paramsText params := by
  have before : ∀ char ∈ text, decide (char ≠ ';') = true :=
    fun char inside => decide_eq_true fun same => clean (same ▸ inside)
  rw [dropWhile_append_of_pos before]
  cases params with
  | nil => rfl
  | cons param params =>
    rw [paramsText, flatMap_cons, cons_append, dropWhile_cons_of_neg (by decide)]

theorem not_mem_keptParams {mark : Char} (other : mark ≠ ';')
    (clean : ∀ param ∈ params, mark ∉ param) : mark ∉ keptParams params := by
  intro member
  simp only [keptParams, paramsText, mem_flatMap, mem_map, mem_filter] at member
  obtain ⟨_, ⟨param, ⟨listed, -⟩, rfl⟩, inside⟩ := member
  rcases mem_cons.mp inside with same | here
  · exact other same
  · exact clean param listed (trim_subset _ here)

end Params

/-- A URI in the form in which it is stored. -/
structure StoredUri where
  lead : Str
  user : Str
  host : Str
  params : List Str
  lead_named : lead = "sip:".toList ∨ lead = "sips:".toList
  user_clean : '@' ∉ user
  host_ne : host ≠ []
  host_plain : ∀ char ∈ host, isWhitespace char = false ∧ char ≠ ';' ∧ char ≠ '@'
  params_clean : ∀ param ∈ params, ';' ∉ param
  params_solid : ∀ char ∈ (paramsText params).getLast?, isWhitespace char = false

namespace StoredUri

variable (uri : StoredUri)

/-- The URI as it is stored. -/
def text : Str :=
  uri.lead ++ uri.user ++ '@' :: (uri.host ++ paramsText uri.params)

/-- The part of the user and the host before the first semicolon. -/
def first : Str :=
  (Str.split ';' (uri.user ++ '@' :: uri.host)).headD []

/-- The other parts of the user and the host. -/
def more : List Str :=
  (Str.split ';' (uri.user ++ '@' :: uri.host)).tail

/-- The second reading gives the first one: every part is kept and the user is read from it, or the
user is missed and replaced by the same fallback. -/
inductive Stable (username : Str) : Prop
  | read (parts : ∀ part ∈ uri.more ++ uri.params, KeptParam part)
      (first : Str.trimEnd uri.first = uri.first) (user : userOr username uri.text = uri.user)
  | missed (several : uri.more ≠ []) (fallback : username = uri.user)
      (clean : '@' ∉ paramsText uri.params)
      (params : keptParams (uri.more ++ uri.params) = paramsText uri.params)

theorem parts_eq : split ';' (uri.user ++ '@' :: uri.host) = uri.first :: uri.more ∧
    uri.user ++ '@' :: uri.host = uri.first ++ paramsText uri.more ∧ ';' ∉ uri.first ∧
    ∀ part ∈ uri.more, ';' ∉ part := by
  obtain ⟨first, more, pieces, whole, clean, others⟩ := exists_parts (uri.user ++ '@' :: uri.host)
  have firstEq : uri.first = first := by rw [StoredUri.first, pieces, headD_cons]
  have moreEq : uri.more = more := by rw [StoredUri.more, pieces, tail_cons]
  rw [firstEq, moreEq]
  exact ⟨pieces, whole, clean, others⟩

theorem text_eq : uri.text = uri.lead ++ uri.first ++ paramsText (uri.more ++ uri.params) := by
  have whole := uri.parts_eq.2.1
  rw [paramsText_append, append_assoc, ← append_assoc uri.first, ← whole]
  simp [text]

theorem lead_clean {mark : Char} (sip : mark ∉ "sip:".toList) (sips : mark ∉ "sips:".toList) :
    mark ∉ uri.lead := by
  rcases uri.lead_named with named | named <;> rwa [named]

theorem lead_solid : uri.lead ≠ [] ∧ (∀ char ∈ uri.lead.head?, isWhitespace char = false) ∧
    ∀ char ∈ uri.lead.getLast?, isWhitespace char = false := by
  rcases uri.lead_named with named | named <;> rw [named] <;>
    exact ⟨by decide, by rintro _ ⟨⟩; decide, by rintro _ ⟨⟩; decide⟩

theorem host_last :
    ∀ left, ∀ char ∈ (left ++ '@' :: uri.host).getLast?, isWhitespace char = false := by
  intro left char found
  rw [getLast?_append_of_ne_nil _ (by simp), getLast?_cons_of_ne_nil uri.host_ne] at found
  exact (uri.host_plain char (mem_of_getLast? found)).1

theorem trim_text : trim uri.text = uri.text := by
  obtain ⟨some, head, -⟩ := uri.lead_solid
  refine trim_of_ends (fun char found => head char ?_) fun char found => ?_
  · obtain ⟨first, others, shape⟩ := exists_cons_of_ne_nil some
    rw [text, shape] at found
    rw [shape]
    exact found
  · by_cases bare : paramsText uri.params = []
    · rw [text, bare, append_nil] at found
      exact uri.host_last _ char found
    · rw [text, ← cons_append, ← append_assoc,
        getLast?_append_of_ne_nil _ bare] at found
      exact uri.params_solid char found

/-- What the second reading makes of the URI. -/
theorem reread : contactUriPreservingUriParams uri.text =
    uri.lead ++ trimEnd uri.first ++ keptParams (uri.more ++ uri.params) := by
  obtain ⟨some, head, last⟩ := uri.lead_solid
  obtain ⟨-, -, clean, others⟩ := uri.parts_eq
  have bare : startsWith (trimStart uri.text) ['<'] = false := by
    rw [text]
    rcases uri.lead_named with named | named <;> rw [named] <;> rfl
  have pieces : split ';' (trim uri.text) =
      (uri.lead ++ uri.first) :: (uri.more ++ uri.params) := by
    rw [trim_text, text_eq]
    refine split_flatMap ?_ fun part member => ?_
    · exact fun inside => (mem_append.mp inside).elim
        (uri.lead_clean (by decide) (by decide)) clean
    · exact (mem_append.mp member).elim (others part) (uri.params_clean part)
  rw [contactUriPreservingUriParams_bare bare, fromParts_split pieces, trim_append some head last]

theorem reread_of_kept (parts : ∀ part ∈ uri.more ++ uri.params, KeptParam part)
    (first : trimEnd uri.first = uri.first) :
    contactUriPreservingUriParams uri.text = uri.text := by
  have plain : ∀ part ∈ uri.more ++ uri.params, ';' ∉ part := fun part member =>
    (mem_append.mp member).elim (uri.parts_eq.2.2.2 part) (uri.params_clean part)
  rw [reread, first, (keptParams_eq_iff plain).mpr parts, ← text_eq]

theorem leadOf_append (rest : Str) : leadOf (uri.lead ++ rest) = uri.lead := by
  rcases uri.lead_named with named | named <;> rw [leadOf, named] <;> rfl

theorem stripLead_append (rest : Str) : (((uri.lead ++ rest).stripLead "sip:".toList).or
    ((uri.lead ++ rest).stripLead "sips:".toList)).getD (uri.lead ++ rest) = rest := by
  rcases uri.lead_named with named | named <;> rw [named] <;> rfl

theorem uriParamSuffix_before {left : Str} (clean : '@' ∉ left) (right : Str) :
    uriParamSuffix (uri.lead ++ left ++ '@' :: right) = right.dropWhile (· ≠ ';') := by
  rw [uriParamSuffix, append_assoc, stripLead_append, splitOnce_append clean]

theorem uriParamSuffix_absent {rest : Str} (clean : '@' ∉ rest) :
    uriParamSuffix (uri.lead ++ rest) = rest.dropWhile (· ≠ ';') := by
  rw [uriParamSuffix, stripLead_append, splitOnce_eq_none clean]

theorem host_clean : ';' ∉ uri.host := fun member => (uri.host_plain _ member).2.1 rfl

theorem uriParamSuffix_text : uriParamSuffix uri.text = paramsText uri.params := by
  rw [text, uri.uriParamSuffix_before uri.user_clean, dropWhile_paramsText uri.host_clean]

/-- Without a semicolon in the user, the first part is the user and the host. Otherwise the host
stands in the last part. -/
theorem parts_cases : (uri.first = uri.user ++ '@' :: uri.host ∧ uri.more = []) ∨
    ∃ words word, uri.user = uri.first ++ paramsText (words ++ [word]) ∧
      uri.more = words ++ [word ++ '@' :: uri.host] := by
  obtain ⟨first, others, -, whole, clean, plain⟩ := exists_parts uri.user
  rcases eq_nil_or_concat' others with rfl | ⟨words, word, rfl⟩
  · left
    have absent : ';' ∉ uri.user ++ '@' :: uri.host := by
      simp only [paramsText, flatMap_nil, append_nil] at whole
      simp [whole, clean, uri.host_clean]
    have pieces := split_of_not_mem absent
    obtain ⟨head, tail⟩ := cons.inj (uri.parts_eq.1.symm.trans pieces)
    exact ⟨head, tail⟩
  · right
    have pieces : split ';' (uri.user ++ '@' :: uri.host) =
        first :: (words ++ [word ++ '@' :: uri.host]) := by
      have shape : uri.user ++ '@' :: uri.host =
          first ++ paramsText (words ++ [word ++ '@' :: uri.host]) := by
        rw [whole]
        simp [paramsText]
      rw [shape]
      refine split_flatMap clean fun part member => ?_
      rcases mem_append.mp member with inside | last
      · exact plain part (mem_append_left _ inside)
      · rw [mem_singleton.mp last]
        simp [plain word (by simp), uri.host_clean]
    obtain ⟨head, tail⟩ := cons.inj (uri.parts_eq.1.symm.trans pieces)
    exact ⟨words, word, head ▸ whole, tail⟩

/-- Stripping the scheme of a text does not add to it. -/
theorem length_withoutScheme_le (rest : Str) :
    (withoutScheme (uri.lead ++ rest)).length ≤ rest.length := by
  rcases uri.lead_named with named | named <;> rw [named, withoutScheme]
  · exact (length_trimStartMatches_go_le _ _).trans
      (length_trimStartMatches_append_le (by decide) rest)
  · have other : startsWith ("sips:".toList ++ rest) "sip:".toList = false := rfl
    rw [trimStartMatches_eq_self other]
    exact length_trimStartMatches_append_le (by decide) rest

theorem trimEnd_host (left : Str) :
    trimEnd (left ++ '@' :: uri.host) = left ++ '@' :: uri.host := by
  rw [trimEnd, rdropWhile_eq_self_iff]
  intro nonempty
  rw [uri.host_last left _ (getLast?_eq_some_getLast nonempty)]
  exact Bool.false_ne_true

theorem trim_host (word : Str) :
    trim (word ++ '@' :: uri.host) = trimStart word ++ '@' :: uri.host := by
  have front : trimStart (word ++ '@' :: uri.host) = trimStart word ++ '@' :: uri.host := by
    rw [trimStart, dropWhile_append]
    split
    · next empty =>
      rw [trimStart, isEmpty_iff.mp empty, dropWhile_cons_of_neg (by decide)]
      rfl
    · rfl
  rw [trim, front, trimEnd_host]

variable {uri} {username : Str}

theorem stable_of_first (first : uri.first = uri.user ++ '@' :: uri.host) (more : uri.more = [])
    (users : userOr username (contactUriPreservingUriParams uri.text) = uri.user)
    (params : uriParamSuffix (contactUriPreservingUriParams uri.text) = paramsText uri.params) :
    uri.Stable username := by
  have again : contactUriPreservingUriParams uri.text =
      uri.lead ++ uri.user ++ '@' :: (uri.host ++ keptParams uri.params) := by
    rw [reread, first, more, trimEnd_host]
    simp
  have front : '@' ∉ uri.lead ++ uri.user := fun member => (mem_append.mp member).elim
    (uri.lead_clean (by decide) (by decide)) uri.user_clean
  rw [again, uri.uriParamSuffix_before uri.user_clean, keptParams,
    dropWhile_paramsText uri.host_clean, ← keptParams, keptParams_eq_iff uri.params_clean] at params
  rw [again, userOr_before front] at users
  refine .read ?_ ?_ ?_
  · rwa [more]
  · rw [first, trimEnd_host]
  · rwa [text, userOr_before front]

section Semicolon

variable {words : List Str} {word : Str}
  (user : uri.user = uri.first ++ paramsText (words ++ [word]))
  (more : uri.more = words ++ [word ++ '@' :: uri.host])

include user in
theorem words_clean {mark : Char} (absent : mark ∉ uri.user) :
    mark ∉ uri.first ∧ (∀ part ∈ words, mark ∉ part) ∧ mark ∉ word := by
  rw [user] at absent
  simp only [paramsText, List.mem_append, List.mem_flatMap, List.mem_cons, not_or, not_exists,
    not_and] at absent
  exact ⟨absent.1, fun part listed => (absent.2 part (.inl listed)).2, (absent.2 word (by simp)).2⟩

/-- What is kept of the parts of the user when the last one is known. -/
def keptWords (words : List Str) (word : Str) : List Str :=
  (words.filter knownParam).map Str.trim ++ [Str.trimStart word]

theorem exists_paramsText_concat (words : List Str) (word : Str) :
    ∃ rest, paramsText (words ++ [word]) = ';' :: rest := by
  cases words with
  | nil => exact ⟨_, rfl⟩
  | cons first others => exact ⟨_, rfl⟩

include more in
theorem reread_known (known : knownParam (word ++ '@' :: uri.host) = true) :
    contactUriPreservingUriParams uri.text =
      uri.lead ++ (Str.trimEnd uri.first ++ paramsText (keptWords words word)) ++
        '@' :: (uri.host ++ keptParams uri.params) := by
  rw [reread, more, keptParams_append, keptParams_append, keptWords, paramsText_append]
  simp [keptParams, paramsText, known, trim_host]

include user in
theorem keptWords_clean : '@' ∉ Str.trimEnd uri.first ++ paramsText (keptWords words word) := by
  obtain ⟨firstClean, wordsClean, wordClean⟩ := words_clean user uri.user_clean
  have kept : '@' ∉ keptParams words := not_mem_keptParams (by decide) wordsClean
  rw [keptWords, paramsText_append, ← keptParams]
  simp only [paramsText, List.flatMap_cons, List.flatMap_nil, List.append_nil, List.mem_append,
    List.mem_cons, not_or]
  exact ⟨fun member => firstClean (Str.trimEnd_subset _ member), kept, by decide,
    fun member => wordClean (Str.trimStart_subset _ member)⟩

include user in
/-- The user that is read where the last part is known. -/
theorem userOr_known (right : Str) :
    userOr username (uri.lead ++ (Str.trimEnd uri.first ++ paramsText (keptWords words word)) ++
        '@' :: right) =
      withoutScheme (uri.lead ++ Str.trimEnd uri.first) ++ paramsText (keptWords words word) := by
  have whole : '@' ∉ uri.lead ++ (Str.trimEnd uri.first ++ paramsText (keptWords words word)) :=
    fun member => (List.mem_append.mp member).elim (uri.lead_clean (by decide) (by decide))
      (keptWords_clean user)
  obtain ⟨rest, shape⟩ := exists_paramsText_concat ((words.filter knownParam).map Str.trim)
    (Str.trimStart word)
  rw [userOr_before whole, ← List.append_assoc, keptWords, shape,
    withoutScheme_before (by decide) (by decide), if_neg (by simp)]

include more in
theorem keptWords_inj (same : paramsText (keptWords words word) = paramsText (words ++ [word])) :
    keptWords words word = words ++ [word] := by
  have plain := uri.parts_eq.2.2.2
  rw [more] at plain
  have wordsPlain : ∀ part ∈ words, ';' ∉ part := fun part listed => plain part (by simp [listed])
  have wordPlain : ';' ∉ word := fun member =>
    plain (word ++ '@' :: uri.host) (by simp) (List.mem_append_left _ member)
  refine paramsText_inj (fun part member => ?_) (fun part member => ?_) same
  · rcases List.mem_append.mp member with inside | last
    · exact trimmed_clean wordsPlain part inside
    · rw [List.mem_singleton.mp last]
      exact fun inside => wordPlain (Str.trimStart_subset _ inside)
  · rcases List.mem_append.mp member with inside | last
    · exact wordsPlain part inside
    · rwa [List.mem_singleton.mp last]

include user more in
/-- A user that is found again is made of parts that are kept. -/
theorem kept_of_userOr (known : knownParam (word ++ '@' :: uri.host) = true)
    (users : withoutScheme (uri.lead ++ Str.trimEnd uri.first) ++ paramsText (keptWords words word) =
      uri.user) :
    Str.trimEnd uri.first = uri.first ∧ ∀ part ∈ uri.more, KeptParam part := by
  obtain ⟨-, -, clean, -⟩ := uri.parts_eq
  obtain ⟨tail, tailEq⟩ := exists_paramsText_concat ((words.filter knownParam).map Str.trim)
    (Str.trimStart word)
  obtain ⟨rest, restEq⟩ := exists_paramsText_concat words word
  have before : ';' ∉ withoutScheme (uri.lead ++ Str.trimEnd uri.first) := fun member =>
    (List.mem_append.mp (withoutScheme_subset _ member)).elim
      (uri.lead_clean (by decide) (by decide)) fun inside => clean (Str.trimEnd_subset _ inside)
  -- The user is cut at its first semicolon, and so is what is read.
  rw [keptWords, tailEq, user, restEq] at users
  obtain ⟨heads, tails⟩ := append_inj_before before clean users
  have lists : keptWords words word = words ++ [word] :=
    keptWords_inj more (tailEq.trans ((congrArg _ tails).trans restEq.symm))
  obtain ⟨sameWords, sameWord⟩ := List.append_inj' lists rfl
  constructor
  · have short := uri.length_withoutScheme_le (Str.trimEnd uri.first)
    rw [heads] at short
    exact (List.rdropWhile_prefix _ _).eq_of_length_le short
  · intro part member
    rw [more] at member
    rcases List.mem_append.mp member with listed | last
    · exact map_trim_eq_self_iff.mp sameWords part listed
    · rw [List.mem_singleton.mp last]
      exact ⟨known, by rw [trim_host, (List.cons.inj sameWord).1]⟩

include user more in
theorem stable_of_known (known : knownParam (word ++ '@' :: uri.host) = true)
    (users : userOr username (contactUriPreservingUriParams uri.text) = uri.user)
    (params : uriParamSuffix (contactUriPreservingUriParams uri.text) = paramsText uri.params) :
    uri.Stable username := by
  rw [reread_known more known, uri.uriParamSuffix_before (keptWords_clean user), keptParams,
    dropWhile_paramsText uri.host_clean, ← keptParams] at params
  have kept := (keptParams_eq_iff uri.params_clean).mp params
  have read := users
  rw [reread_known more known, userOr_known user] at read
  obtain ⟨trimmed, parts⟩ := kept_of_userOr user more known read
  have all : ∀ part ∈ uri.more ++ uri.params, KeptParam part := fun part member =>
    (List.mem_append.mp member).elim (parts part) (kept part)
  refine .read all trimmed ?_
  rwa [uri.reread_of_kept all trimmed] at users

include user more in
theorem stable_of_unknown (unknown : knownParam (word ++ '@' :: uri.host) = false)
    (users : userOr username (contactUriPreservingUriParams uri.text) = uri.user)
    (params : uriParamSuffix (contactUriPreservingUriParams uri.text) = paramsText uri.params) :
    uri.Stable username := by
  obtain ⟨-, -, clean, -⟩ := uri.parts_eq
  obtain ⟨firstClean, wordsClean, -⟩ := words_clean user uri.user_clean
  have kept : keptParams (uri.more ++ uri.params) = keptParams words ++ keptParams uri.params := by
    rw [more, keptParams_append, keptParams_append]
    simp [keptParams, paramsText, unknown]
  have front : '@' ∉ Str.trimEnd uri.first ++ keptParams words := fun member =>
    (List.mem_append.mp member).elim (fun inside => firstClean (Str.trimEnd_subset _ inside))
      (not_mem_keptParams (by decide) wordsClean)
  rw [reread, kept] at users params
  by_cases later : '@' ∈ keptParams uri.params
  · -- What is left of the parameters is shorter than the parameters.
    obtain ⟨left, right, shape, absent⟩ := List.eq_append_cons_of_mem later
    have before : '@' ∉ Str.trimEnd uri.first ++ keptParams words ++ left := fun member =>
      (List.mem_append.mp member).elim front absent
    have whole : uri.lead ++ Str.trimEnd uri.first ++ (keptParams words ++ keptParams uri.params) =
        uri.lead ++ (Str.trimEnd uri.first ++ keptParams words ++ left) ++ '@' :: right := by
      simp [shape]
    rw [whole, uri.uriParamSuffix_before before] at params
    have short := (List.dropWhile_suffix (· ≠ ';') (l := right)).length_le
    have fewer := length_keptParams_le uri.params
    rw [params] at short
    rw [shape, List.length_append, List.length_cons] at fewer
    omega
  · have absent : '@' ∉ Str.trimEnd uri.first ++ (keptParams words ++ keptParams uri.params) := by
      rw [← List.append_assoc]
      exact fun member => (List.mem_append.mp member).elim front later
    rw [List.append_assoc] at users params
    rw [userOr_of_absent fun member => (List.mem_append.mp member).elim
      (uri.lead_clean (by decide) (by decide)) absent] at users
    rw [uri.uriParamSuffix_absent absent, ← keptParams_append, keptParams, dropWhile_paramsText
      fun member => clean (Str.trimEnd_subset _ member), ← keptParams, keptParams_append] at params
    refine .missed (by simp [more]) users ?_ (kept.trans params)
    rw [← params]
    exact fun member => absent (List.mem_append_right _ member)

end Semicolon

theorem Stable.reread (stable : uri.Stable username) :
    userOr username (contactUriPreservingUriParams uri.text) = uri.user ∧
      uriParamSuffix (contactUriPreservingUriParams uri.text) = paramsText uri.params := by
  have clean := uri.parts_eq.2.2
  cases stable with
  | read parts first user =>
    rw [uri.reread_of_kept parts first]
    exact ⟨user, uri.uriParamSuffix_text⟩
  | missed several fallback absent params =>
    have head : '@' ∉ trimEnd uri.first := by
      rcases uri.parts_cases with ⟨-, empty⟩ | ⟨words, word, user, -⟩
      · exact absurd empty several
      · intro member
        refine uri.user_clean ?_
        rw [user]
        exact mem_append_left _ (trimEnd_subset _ member)
    have rest : '@' ∉ trimEnd uri.first ++ paramsText uri.params := fun member =>
      (mem_append.mp member).elim head absent
    rw [StoredUri.reread, params, append_assoc, uri.uriParamSuffix_absent rest,
      dropWhile_paramsText fun member => clean.1 (trimEnd_subset _ member)]
    refine ⟨?_, rfl⟩
    rw [userOr_of_absent fun member => (mem_append.mp member).elim
      (uri.lead_clean (by decide) (by decide)) rest, fallback]

/-- A stored URI is left as it is exactly when it is stable. -/
theorem routableContactUri_text_iff (platform : Platform) {src : SocketAddr}
    (host : uri.host = socketAddrUriHostPort platform src) (plain : '@' ∉ username) :
    routableContactUri platform uri.text username src = uri.text ↔ uri.Stable username := by
  have again : routableContactUri platform uri.text username src =
      uri.lead ++ userOr username (contactUriPreservingUriParams uri.text) ++
        '@' :: (uri.host ++ uriParamSuffix (contactUriPreservingUriParams uri.text)) := by
    have lead : leadOf (contactUriPreservingUriParams uri.text) = uri.lead := by
      rw [reread, append_assoc, leadOf_append]
    rw [routableContactUri_eq, lead, host]
  rw [again]
  constructor
  · intro same
    rw [append_assoc] at same
    have tails := append_cancel_left (same.trans (append_assoc ..))
    obtain ⟨users, rest⟩ := append_inj_before (userOr_absent plain _) uri.user_clean tails
    have params := append_cancel_left rest
    rcases uri.parts_cases with ⟨first, more⟩ | ⟨words, word, user, more⟩
    · exact stable_of_first first more users params
    · cases known : knownParam (word ++ '@' :: uri.host) with
      | true => exact stable_of_known user more known users params
      | false => exact stable_of_unknown user more known users params
  · intro stable
    rw [stable.reread.1, stable.reread.2]
    rfl

/-! ### The URI of a contact -/

theorem getLast_contactUri (contact : Str) :
    ∀ char ∈ (contactUriPreservingUriParams contact).getLast?, isWhitespace char = false := by
  have parts : ∀ char ∈ (contactUriPreservingUriParams.fromParts contact).getLast?,
      isWhitespace char = false := by
    obtain ⟨first, params, pieces, -, -, -⟩ := exists_parts (trim contact)
    rw [fromParts_split pieces, keptParams]
    rcases eq_nil_or_concat' ((params.filter knownParam).map trim) with
      none | ⟨front, last, shape⟩
    · rw [none, paramsText, flatMap_nil, append_nil]
      exact getLast?_trim first
    · obtain ⟨param, -, rfl⟩ : ∃ param ∈ params.filter knownParam, trim param = last :=
        mem_map.mp (by simp [shape])
      rw [shape, paramsText_append, ← append_assoc]
      intro char found
      simp only [paramsText, flatMap_cons, flatMap_nil, append_nil] at found
      rw [getLast?_append_of_ne_nil _ (by simp)] at found
      by_cases empty : trim param = []
      · rw [empty] at found
        cases found
        decide
      · rw [getLast?_cons_of_ne_nil empty] at found
        exact getLast?_trim param char found
  unfold contactUriPreservingUriParams
  split
  · next uri found =>
    split
    · unfold extractUri at found
      split at found
      · cases found
        exact getLast?_trim _
      · dsimp only at found
        split at found
        · cases found
          exact getLast?_trim _
        · cases found
    · exact parts
  · exact parts

theorem paramsText_split (uri : Str) :
    paramsText (split ';' (uriParamSuffix uri)).tail = uriParamSuffix uri := by
  obtain ⟨first, params, pieces, whole, clean, -⟩ := exists_parts (uriParamSuffix uri)
  cases first with
  | nil => rw [pieces, tail_cons, whole, nil_append]
  | cons char first =>
    have starts := uriParamSuffix_head uri char (by rw [whole]; rfl)
    exact absurd (starts ▸ .head _) clean

/-- The URI that is stored for a contact. -/
def ofContact (platform : Platform) (contact : Str) {username : Str} (plain : '@' ∉ username)
    (src : SocketAddr) : StoredUri where
  lead := leadOf (contactUriPreservingUriParams contact)
  user := userOr username (contactUriPreservingUriParams contact)
  host := socketAddrUriHostPort platform src
  params := (Str.split ';' (uriParamSuffix (contactUriPreservingUriParams contact))).tail
  lead_named := leadOf_named _
  user_clean := userOr_absent plain _
  host_ne := by
    unfold socketAddrUriHostPort
    split <;> simp [Sdp.hostPort]
  host_plain := by
    have plain : ∀ char ∈ '[' :: ']' :: '.' :: ':' :: Str.hexDigits,
        isWhitespace char = false ∧ char ≠ ';' ∧ char ≠ '@' := Str.forall_mem_of_all (by decide)
    exact fun char member => plain char (socketAddrUriHostPort_chars platform src char member)
  params_clean := fun param member => Str.not_mem_of_mem_split (List.mem_of_mem_tail member)
  params_solid := by
    intro char found
    rw [paramsText_split] at found
    obtain ⟨front, whole⟩ := uriParamSuffix_suffix (contactUriPreservingUriParams contact)
    refine getLast_contactUri contact char ?_
    have filled : uriParamSuffix (contactUriPreservingUriParams contact) ≠ [] := by
      intro empty
      rw [empty] at found
      cases found
    rwa [← whole, List.getLast?_append_of_ne_nil _ filled]

theorem text_ofContact (platform : Platform) (contact : Str) {username : Str}
    (plain : '@' ∉ username) (src : SocketAddr) :
    (ofContact platform contact plain src).text =
      routableContactUri platform contact username src := by
  rw [routableContactUri_eq, text, ofContact, paramsText_split]

end StoredUri

/-- A call leaves the stored URI of a contact as it is exactly when the second reading agrees with
the first. -/
theorem registeredTargetUri_routableContactUri_iff (platform : Platform) (contact : Str)
    {username : Str} (plain : '@' ∉ username) (src : SocketAddr)
    (datagram : isWebsocketContactUri (routableContactUri platform contact username src) = false) :
    registeredTargetUri platform username (routableContactUri platform contact username src) src =
        routableContactUri platform contact username src ↔
      (StoredUri.ofContact platform contact plain src).Stable username := by
  rw [registeredTargetUri, if_neg (ne_true_of_eq_false datagram),
    ← StoredUri.text_ofContact platform contact plain src]
  exact StoredUri.routableContactUri_text_iff platform rfl plain

/-- `<sip:b@h;x=1>` is stored with its parameter, which is not in the Request-URI of a call. -/
theorem registeredTargetUri_drops_parameter :
    isWebsocketContactUri (routableContactUri (Platform.ascii fun _ => none)
      "<sip:b@h;x=1>".toList "b".toList ⟨.v4 0, 5060⟩) = false ∧
    registeredTargetUri (Platform.ascii fun _ => none) "b".toList
        (routableContactUri (Platform.ascii fun _ => none) "<sip:b@h;x=1>".toList "b".toList
          ⟨.v4 0, 5060⟩) ⟨.v4 0, 5060⟩ ≠
      routableContactUri (Platform.ascii fun _ => none) "<sip:b@h;x=1>".toList "b".toList
        ⟨.v4 0, 5060⟩ := by
  constructor <;> decide

/-- `<sip:b@h;transport=tls>` keeps its parameter. -/
theorem registeredTargetUri_keeps_transport :
    isWebsocketContactUri (routableContactUri (Platform.ascii fun _ => none)
      "<sip:b@h;transport=tls>".toList "b".toList ⟨.v4 0, 5060⟩) = false ∧
    (StoredUri.ofContact (Platform.ascii fun _ => none) "<sip:b@h;transport=tls>".toList
      (show '@' ∉ "b".toList by decide) ⟨.v4 0, 5060⟩).Stable "b".toList := by
  refine ⟨by decide, ?_⟩
  apply (registeredTargetUri_routableContactUri_iff (Platform.ascii fun _ => none)
    "<sip:b@h;transport=tls>".toList (by decide) ⟨.v4 0, 5060⟩ (by decide)).mp
  decide

end Sip3
