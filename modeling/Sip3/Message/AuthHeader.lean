import Sip3.Message.AuthParams
import Sip3.Text.Tokens

/-!
# Headers made of named parameters

A challenge and the answer to it are a scheme and a list of named parameters, of which some are in
quotes. `parse_auth_params` reads such a header back, parameter by parameter.
-/

namespace Sip3.AuthParams

open Text Str List

/-- Every backslash is followed by a character, and every quote is preceded by a backslash that is
not itself escaped. The flag says that the next character is escaped. -/
def wellEscaped : Bool → Str → Bool
  | escaped, [] => !escaped
  | true, _ :: rest => wellEscaped false rest
  | false, char :: rest => char ≠ '"' && wellEscaped (char = '\\') rest

/-- A parameter as it is written into a header. The name is in lower case. A value in quotes is
well escaped; one without quotes has no comma in it, no quote in front and no white space around. -/
structure Parameter (platform : Platform) where
  name : Str
  value : Str
  quoted : Bool
  name_ne : name ≠ []
  name_plain : ∀ char ∈ name, isWhitespace char = false ∧ char ≠ '=' ∧ char ≠ ','
  name_lower : platform.toLowercase name = name
  quoted_escaped : quoted = true → wellEscaped false value = true
  bare_plain : quoted = false → ',' ∉ value ∧ value.head? ≠ some '"' ∧ Str.trim value = value

variable {platform : Platform}

namespace Parameter

/-- The value as it is written. -/
def valueText (parameter : Parameter platform) : Str :=
  if parameter.quoted then '"' :: (parameter.value ++ ['"']) else parameter.value

/-- The parameter as it is written. -/
def text (parameter : Parameter platform) : Str :=
  parameter.name ++ '=' :: parameter.valueText

variable (parameter : Parameter platform)

/-- A character of a name is nothing else. -/
theorem name_char {char : Char} (member : char ∈ parameter.name) :
    isWhitespace char = false ∧ isSeparatorChar char = false ∧ char ≠ '=' := by
  obtain ⟨solid, notEquals, notComma⟩ := parameter.name_plain char member
  have other (mark : Char) (blank : isWhitespace mark = true) : char ≠ mark := by
    rintro rfl
    exact Bool.false_ne_true (solid.symm.trans blank)
  exact ⟨solid, by simp [isSeparatorChar, notComma, other ' ' (by decide), other '\t' (by decide)],
    notEquals⟩

/-- The name is the key under which the value is stored. -/
theorem key_eq : platform.toLowercase (trim parameter.name) = parameter.name := by
  rw [trim_eq_self fun char member => (parameter.name_plain char member).1,
    parameter.name_lower]

end Parameter

/-- The loop over a quoted value stops at the first quote that is not escaped. -/
theorem closeQuote_escaped {escaped : Bool} {value : Str} (valid : wellEscaped escaped value = true)
    (more : Str) (pos : Nat) :
    closeQuote escaped (encode (value ++ '"' :: more)) pos = pos + byteLength value := by
  induction value generalizing escaped pos with
  | nil =>
    cases escaped with
    | true => cases valid
    | false =>
      rw [nil_append, encode_cons, closeQuote_char, if_pos ⟨rfl, rfl⟩]
      rfl
  | cons char rest ih =>
    rw [cons_append, encode_cons, closeQuote_char, byteLength, ← Nat.add_assoc]
    cases escaped with
    | true =>
      rw [if_neg (by simp)]
      exact ih valid _
    | false =>
      obtain ⟨notQuote, onward⟩ := Bool.and_eq_true_iff.mp valid
      rw [if_neg fun closes => of_decide_eq_true notQuote closes.2]
      exact ih onward _

section ReadBack

variable {next : Nat → Params → Except Failure Params} {done key value : Str} {params : Params}

theorem readValue_quoted (valid : wellEscaped false value = true) (more : Str) :
    readValue (done ++ ('"' :: (value ++ ['"'])) ++ more) key (byteLength done) params next =
      next (byteLength (done ++ '"' :: (value ++ ['"']))) (params.insert key value) := by
  have quoteSize : ('"' : Char).utf8Size = 1 := by decide
  have whole : done ++ ('"' :: (value ++ ['"'])) ++ more = done ++ ['"'] ++ (value ++ '"' :: more) := by
    simp
  have quote : (encode (done ++ ['"'] ++ (value ++ '"' :: more)))[byteLength done]? =
      some (byteOf '"') := by
    rw [append_assoc]
    exact (getElem?_encode_iff (by decide) done _).mpr rfl
  have start : byteLength done + 1 = byteLength (done ++ ['"']) := by
    simp [byteLength, quoteSize]
  have text := slice_append (done ++ ['"']) value ('"' :: more)
  obtain ⟨short, position⟩ := quoted_position done value more
  rw [whole, readValue, if_pos quote, start]
  simp only [drop_encode, closeQuote_escaped valid, text, if_pos short, position]

/-- A value without quotes ends before a comma or with the text, and is trimmed. -/
theorem readValue_bare (plain : ',' ∉ value ∧ value.head? ≠ some '"' ∧ trim value = value)
    {more : Str} (ends : ∀ char ∈ more.head?, char = ',') :
    readValue (done ++ value ++ more) key (byteLength done) params next =
      next (byteLength (done ++ value)) (params.insert key value) := by
  have unquoted : ¬ (encode (done ++ (value ++ more)))[byteLength done]? =
      some (byteOf '"') := by
    rw [getElem?_encode_iff (by decide) done (value ++ more)]
    intro first
    cases value with
    | nil => exact absurd (ends _ first) (by decide)
    | cons char rest => exact plain.2.1 first
  have taken : (value ++ more).takeWhile (· ≠ ',') = value := by
    have solid : ∀ char ∈ value, char ≠ ',' := fun char member same => plain.1 (same ▸ member)
    rw [takeWhile_append_of_pos fun char member => decide_eq_true (solid char member)]
    cases more with
    | nil => simp
    | cons char rest => simp [ends char rfl]
  have text := slice_append done value more
  rw [append_assoc, readValue, if_neg unquoted]
  simp only [drop_encode, skip_until (show (',' : Char).toNat < 128 by decide), taken]
  rw [text, byteLength_append]
  simp only [plain.2.2]

end ReadBack

namespace Parameter

theorem loop_text (parameter : Parameter platform) (fuel : Nat) (done : Str)
    {seps more : Str} (separators : ∀ char ∈ seps, isSeparatorChar char = true)
    (ends : ∀ char ∈ more.head?, char = ',') (params : Params) :
    loop platform (done ++ (seps ++ (parameter.text ++ more))) (fuel + 1) (byteLength done)
        params =
      loop platform (done ++ (seps ++ (parameter.text ++ more))) fuel
        (byteLength (done ++ (seps ++ parameter.text)))
        (params.insert parameter.name parameter.value) := by
  have split : parameter.text ++ more = parameter.name ++ '=' :: (parameter.valueText ++ more) := by
    simp [text]
  have first : ∀ char ∈ (parameter.name ++ '=' :: (parameter.valueText ++ more)).head?,
      isSeparatorChar char = false := by
    intro char head
    cases name : parameter.name with
    | nil => exact absurd name parameter.name_ne
    | cons letter rest =>
      rw [name] at head
      cases head
      exact (parameter.name_char (name ▸ mem_cons_self)).2.1
  rw [split, loop_round platform fuel done seps _ _ params separators first
    fun char member => (parameter.name_char member).2.2, parameter.key_eq]
  have whole : done ++ (seps ++ (parameter.name ++ '=' :: (parameter.valueText ++ more))) =
      done ++ (seps ++ (parameter.name ++ ['='])) ++ parameter.valueText ++ more := by
    simp
  have upTo : done ++ (seps ++ parameter.text) =
      done ++ (seps ++ (parameter.name ++ ['='])) ++ parameter.valueText := by
    simp [text]
  rw [whole, upTo]
  cases quoted : parameter.quoted with
  | true =>
    rw [valueText, if_pos quoted]
    exact readValue_quoted (parameter.quoted_escaped quoted) more
  | false =>
    rw [valueText, if_neg (by simp [quoted])]
    exact readValue_bare (parameter.bare_plain quoted) ends

end Parameter

/-- The parameters after the first one, each after a comma and a blank. -/
def moreText (parameters : List (Parameter platform)) : Str :=
  parameters.flatMap fun parameter => ", ".toList ++ parameter.text

/-- The parameters with their values. -/
def store (parameters : List (Parameter platform)) (params : Params) : Params :=
  parameters.foldl (fun read parameter => read.insert parameter.name parameter.value) params

variable {parameters : List (Parameter platform)}

theorem lookup_store_of_absent {name : Str}
    (absent : ∀ parameter ∈ parameters, parameter.name ≠ name) (params : Params) :
    (store parameters params).lookup name = params.lookup name := by
  induction parameters generalizing params with
  | nil => rfl
  | cons parameter rest ih =>
    have other : name ≠ parameter.name := (absent parameter (.head _)).symm
    exact (ih (fun next member => absent next (.tail _ member)) _).trans
      (AList.lookup_insert_ne other)

/-- A parameter whose name occurs once is stored with its value. -/
theorem lookup_store (distinct : (parameters.map (·.name)).Nodup) {parameter : Parameter platform}
    (member : parameter ∈ parameters) (params : Params) :
    (store parameters params).lookup parameter.name = some parameter.value := by
  induction parameters generalizing params with
  | nil => exact absurd member not_mem_nil
  | cons first rest ih =>
    rw [map_cons, nodup_cons] at distinct
    rcases mem_cons.mp member with rfl | later
    · have absent : ∀ next ∈ rest, next.name ≠ parameter.name := fun next listed same =>
        distinct.1 (mem_map.mpr ⟨next, listed, same⟩)
      exact (lookup_store_of_absent absent _).trans (AList.lookup_insert params)
    · exact ih distinct.2 later _

theorem head_moreText (parameters : List (Parameter platform)) :
    ∀ char ∈ (moreText parameters).head?, char = ',' := by
  intro char head
  cases parameters with
  | nil => cases head
  | cons parameter rest => exact (Option.some.inj head).symm

theorem loop_moreText (parameters : List (Parameter platform)) (fuel : Nat) (done : Str)
    (params : Params) (enough : byteLength (moreText parameters) < fuel) :
    loop platform (done ++ moreText parameters) fuel (byteLength done) params =
      .ok (store parameters params) := by
  induction parameters generalizing fuel done params with
  | nil =>
    obtain ⟨fuel, rfl⟩ := Nat.exists_eq_succ_of_ne_zero (Nat.ne_of_gt (Nat.zero_lt_of_lt enough))
    exact loop_stops platform fuel done [] [] params nofun nofun nofun
  | cons parameter rest ih =>
    obtain ⟨fuel, rfl⟩ := Nat.exists_eq_succ_of_ne_zero (Nat.ne_of_gt (Nat.zero_lt_of_lt enough))
    have split : done ++ moreText (parameter :: rest) =
        done ++ (", ".toList ++ (parameter.text ++ moreText rest)) := by
      simp [moreText]
    have whole : done ++ (", ".toList ++ (parameter.text ++ moreText rest)) =
        done ++ (", ".toList ++ parameter.text) ++ moreText rest := by
      simp
    have separators : ∀ char ∈ ", ".toList, isSeparatorChar char = true :=
      forall_mem_of_all (by decide)
    have lead : 0 < byteLength ", ".toList := by decide
    have size : byteLength (moreText (parameter :: rest)) =
        byteLength ", ".toList + byteLength parameter.text +
          byteLength (moreText rest) := by
      simp only [moreText, flatMap_cons, byteLength_append]
    rw [split, parameter.loop_text fuel done separators (head_moreText rest), whole,
      ih fuel _ _ (by omega)]
    rfl

/-- Parameters with a comma and a blank between them. -/
def listText : List (Parameter platform) → Str
  | [] => []
  | first :: rest => first.text ++ moreText rest

/-- A scheme and its parameters. -/
def headerText (scheme : Str) (parameters : List (Parameter platform)) : Str :=
  scheme ++ ' ' :: listText parameters

theorem Parameter.getLast_text (parameter : Parameter platform) :
    ∀ char ∈ parameter.text.getLast?, isWhitespace char = false := by
  intro char last
  obtain rfl : parameter.valueText.getLast?.getD '=' = char := by
    simpa [Parameter.text, getLast?_append, getLast?_cons] using last
  cases quoted : parameter.quoted with
  | true =>
    have closing : parameter.valueText.getLast? = some '"' := by
      simp [Parameter.valueText, quoted, getLast?_cons]
    rw [closing]
    decide
  | false =>
    have bare : parameter.valueText = parameter.value := by simp [Parameter.valueText, quoted]
    rw [bare]
    cases written : parameter.value.getLast? with
    | none => decide
    | some final =>
      refine getLast?_trim parameter.value final ?_
      rw [(parameter.bare_plain quoted).2.2]
      exact written

theorem getLast_moreText (parameters : List (Parameter platform)) :
    ∀ char ∈ (moreText parameters).getLast?, isWhitespace char = false := by
  induction parameters with
  | nil => exact nofun
  | cons parameter rest ih =>
    intro char last
    have split : moreText (parameter :: rest) = ", ".toList ++ parameter.text ++ moreText rest := by
      simp [moreText]
    rw [split, getLast?_append, getLast?_append] at last
    cases later : (moreText rest).getLast? with
    | some final =>
      rw [later] at last
      exact ih char (later ▸ last)
    | none =>
      cases here : parameter.text.getLast? with
      | some final =>
        rw [later, here] at last
        exact parameter.getLast_text char (here ▸ last)
      | none => simp [Parameter.text] at here

theorem trim_listText (parameters : List (Parameter platform)) :
    trim (listText parameters) = listText parameters := by
  cases parameters with
  | nil => rfl
  | cons first rest =>
    refine trim_of_ends (fun char head => ?_) fun char last => ?_
    · cases name : first.name with
      | nil => exact absurd name first.name_ne
      | cons letter letters =>
        rw [listText, Parameter.text, name] at head
        cases head
        exact (first.name_char (name ▸ mem_cons_self)).1
    · rw [listText, getLast?_append] at last
      cases later : (moreText rest).getLast? with
      | some final =>
        rw [later] at last
        exact getLast_moreText rest char (later ▸ last)
      | none =>
        rw [later] at last
        exact first.getLast_text char last

theorem parseAuthParams_headerText {scheme : Str} (absent : ' ' ∉ scheme)
    (parameters : List (Parameter platform)) :
    parseAuthParams platform (headerText scheme parameters) = .ok (store parameters ∅) := by
  rw [headerText, parseAuthParams_append platform absent, trim_listText]
  cases parameters with
  | nil => rfl
  | cons first rest =>
    have equalsSize : ('=' : Char).utf8Size = 1 := by decide
    have size : 0 < byteLength first.text := by
      simp only [Parameter.text, byteLength_append, byteLength, equalsSize]
      omega
    have round := @Parameter.loop_text platform first
      (byteLength (first.text ++ moreText rest)) [] [] (moreText rest) (forall_mem_nil _)
      (head_moreText rest) ∅
    have remaining := loop_moreText rest (byteLength (first.text ++ moreText rest))
      first.text (AList.insert first.name first.value ∅) (by rw [byteLength_append]; omega)
    exact round.trans remaining

section Credentials

/-- A text that can stand in quotes as it is. -/
def Quotable (text : Str) : Prop :=
  ∀ char ∈ text, char ≠ '"' ∧ char ≠ '\\'

variable {text : Str} {name : Str}

theorem wellEscaped_of_quotable (plain : Quotable text) : wellEscaped false text = true := by
  induction text with
  | nil => rfl
  | cons char rest ih =>
    obtain ⟨notQuote, notBackslash⟩ := plain char (.head _)
    rw [wellEscaped, decide_eq_true notQuote, decide_eq_false notBackslash, Bool.true_and]
    exact ih fun other member => plain other (.tail _ member)

theorem quotable_of_hex (hex : ∀ char ∈ text, char ∈ hexDigits) : Quotable text := by
  have plain : ∀ char ∈ hexDigits, char ≠ '"' ∧ char ≠ '\\' :=
    forall_mem_of_all (by decide)
  exact fun char member => plain char (hex char member)

/-- Whether a name is written with lower-case letters. -/
def isName (name : Str) : Bool :=
  name ≠ [] && name.all fun char => 'a' ≤ char && char ≤ 'z'

section

variable (named : isName name = true)

include named

theorem letter_of_isName {char : Char} (member : char ∈ name) :
    97 ≤ char.toNat ∧ char.toNat ≤ 122 := by
  have letter := all_eq_true.mp (Bool.and_eq_true_iff.mp named).2 char member
  simp only [Bool.and_eq_true, decide_eq_true_eq, Char.le_def, UInt32.le_iff_toNat_le] at letter
  exact letter

theorem plain_of_isName : ∀ char ∈ name, isWhitespace char = false ∧ char ≠ '=' ∧ char ≠ ',' := by
  intro char member
  obtain ⟨low, high⟩ := letter_of_isName named member
  have other : ∀ mark : Char, mark.toNat < 97 → char ≠ mark := by
    rintro mark small rfl
    omega
  refine ⟨?_, other '=' (by decide), other ',' (by decide)⟩
  simp only [isWhitespace, Bool.or_eq_false_iff, Bool.and_eq_false_iff, decide_eq_false_iff_not,
    beq_eq_false_iff_ne]
  omega

theorem toLowercase_of_isName : platform.toLowercase name = name := by
  rw [platform.toLowercase_ascii _ fun char member => by
    have := (letter_of_isName named member).2
    omega]
  refine (map_congr_left fun char member => dif_neg ?_).trans (map_id _)
  rintro ⟨-, high⟩
  have upper : char.toNat ≤ 90 := UInt32.le_iff_toNat_le.mp high
  have lower := (letter_of_isName named member).1
  omega

theorem ne_nil_of_isName : name ≠ [] := by
  rintro rfl
  cases named

end

/-- A parameter in quotes. -/
def quote (name value : Str) (named : isName name = true) (plain : Quotable value) :
    Parameter platform where
  name := name
  value := value
  quoted := true
  name_ne := ne_nil_of_isName named
  name_plain := plain_of_isName named
  name_lower := toLowercase_of_isName named
  quoted_escaped _ := wellEscaped_of_quotable plain
  bare_plain unquoted := Bool.noConfusion unquoted

/-- A parameter without quotes. -/
def bare (name value : Str) (named : isName name = true)
    (plain : (∀ char ∈ value, isWhitespace char = false ∧ char ≠ ',') ∧ value.head? ≠ some '"') :
    Parameter platform where
  name := name
  value := value
  quoted := false
  name_ne := ne_nil_of_isName named
  name_plain := plain_of_isName named
  name_lower := toLowercase_of_isName named
  quoted_escaped quoted := Bool.noConfusion quoted
  bare_plain _ := ⟨fun comma => (plain.1 _ comma).2 rfl, plain.2,
    Str.trim_eq_self fun char member => (plain.1 char member).1⟩

theorem md5_plain : (∀ char ∈ "MD5".toList, isWhitespace char = false ∧ char ≠ ',') ∧
    "MD5".toList.head? ≠ some '"' :=
  ⟨forall_mem_of_all (by decide), by decide⟩

end Credentials

/-- A rendered header with distinct names is read as exactly its names with their raw values. -/
theorem parseAuthParams_rendered {scheme : Str} (word : ' ' ∉ scheme)
    {parameters : List (Parameter platform)} (distinct : (parameters.map (·.name)).Nodup) :
    ∃ params, parseAuthParams platform (headerText scheme parameters) = .ok params ∧
      ∀ key value, params.lookup key = some value ↔
        ∃ parameter ∈ parameters, parameter.name = key ∧ parameter.value = value := by
  refine ⟨store parameters ∅, parseAuthParams_headerText word parameters, fun key value => ?_⟩
  constructor
  · intro found
    by_contra missing
    by_cases named : ∃ parameter ∈ parameters, parameter.name = key
    · obtain ⟨parameter, listed, rfl⟩ := named
      rw [lookup_store distinct listed] at found
      exact missing ⟨parameter, listed, rfl, Option.some.inj found⟩
    · rw [lookup_store_of_absent fun parameter listed same => named ⟨parameter, listed, same⟩] at found
      cases found
  · rintro ⟨parameter, listed, rfl, rfl⟩
    exact lookup_store distinct listed ∅

/-- A realm with a quote and a comma in it, and a count. -/
def sampleParameters : List (Parameter (Platform.ascii fun _ => none)) :=
  [{ name := "realm".toList
     value := "a\\\", b".toList
     quoted := true
     name_ne := by decide
     name_plain := plain_of_isName (by decide)
     name_lower := toLowercase_of_isName (by decide)
     quoted_escaped _ := by decide
     bare_plain unquoted := Bool.noConfusion unquoted },
    bare "nc".toList "00000001".toList (.refl true) ⟨Str.forall_mem_of_all (by decide), by decide⟩]

theorem parseAuthParams_rendered_sample : ∃ params,
    parseAuthParams (Platform.ascii fun _ => none) (headerText "Digest".toList sampleParameters) =
      .ok params ∧
    ∀ key value, params.lookup key = some value ↔
      ∃ parameter ∈ sampleParameters, parameter.name = key ∧ parameter.value = value :=
  parseAuthParams_rendered (by decide) (by
    change ["realm".toList, "nc".toList].Nodup
    decide)

end Sip3.AuthParams
