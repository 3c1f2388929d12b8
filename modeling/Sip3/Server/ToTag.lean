import Sip3.Message.ViaStrip
import Sip3.Server.Scenario

/-!
# Tags of To values

Three functions add the server's tag to a To value. The one of the voicemail service looks for a tag
outside quotes and brackets; those of the conferences and of the message waiting service look
for the text `;tag=` anywhere. They decide alike where the value has a tag parameter, and where the
text does not occur at all.
-/

namespace Sip3.ToTag

open Text List Str

/-- Where a character of a To value stands. -/
inductive Place where
  | outside
  | quoted
  | escaped
  | angle
  deriving DecidableEq

/-- The place after one more character. -/
def Place.next : Place → Char → Place
  | .outside, char => if char = '"' then .quoted else if char = '<' then .angle else .outside
  | .quoted, char => if char = '\\' then .escaped else if char = '"' then .outside else .quoted
  | .escaped, _ => .quoted
  | .angle, char => if char = '>' then .outside else .angle

/-- The place after a text. -/
def placeAfter (text : Str) : Place :=
  text.foldl Place.next .outside

/-- The quotes and the brackets of the value are closed. -/
def Closed (toValue : Str) : Prop :=
  placeAfter toValue = .outside

/-- The value has a tag parameter outside quotes and brackets. -/
def HasTag (toValue : Str) : Prop :=
  ∃ before mark after, toValue = before ++ (mark ++ after) ∧
    Str.toAsciiLowercase mark = ";tag=".toList ∧ placeAfter before = .outside

/-- The text outside quotes and brackets, from a place on. -/
def outerFrom : Place → Str → Str
  | _, [] => []
  | place, char :: rest =>
    if place = .outside ∧ char ≠ '"' ∧ char ≠ '<' then char :: outerFrom (place.next char) rest
    else outerFrom (place.next char) rest

section Scan

open Voicemail

/-- The flags of the scanner for a place. -/
def scanAt (place : Place) (outside : Str) : TagScan :=
  ⟨place = .angle, place = .quoted ∨ place = .escaped, place = .escaped, outside⟩

theorem read_scanAt (place : Place) (outside : Str) (char : Char) :
    (scanAt place outside).read char = scanAt (place.next char)
      (if place = .outside ∧ char ≠ '"' ∧ char ≠ '<' then outside ++ [char] else outside) := by
  cases place with
  | outside =>
    by_cases quote : char = '"' <;> by_cases bracket : char = '<' <;>
      simp [scanAt, TagScan.read, Place.next, quote, bracket]
  | quoted =>
    by_cases slash : char = '\\' <;> by_cases quote : char = '"' <;>
      simp [scanAt, TagScan.read, Place.next, slash, quote]
  | escaped => simp [scanAt, TagScan.read, Place.next]
  | angle =>
    by_cases bracket : char = '>' <;> simp [scanAt, TagScan.read, Place.next, bracket]

/-- The scanner of the voicemail service collects the text outside. -/
theorem foldl_scanAt (text : Str) (place : Place) (outside : Str) :
    text.foldl TagScan.read (scanAt place outside) =
      scanAt (text.foldl Place.next place) (outside ++ outerFrom place text) := by
  induction text generalizing place outside with
  | nil => rw [foldl_nil, foldl_nil, outerFrom, append_nil]
  | cons char rest ih =>
    rw [foldl_cons, foldl_cons, read_scanAt, ih, outerFrom]
    split <;> simp

theorem outerFrom_append (left right : Str) (place : Place) :
    outerFrom place (left ++ right) =
      outerFrom place left ++ outerFrom (left.foldl Place.next place) right := by
  induction left generalizing place with
  | nil => rfl
  | cons char rest ih =>
    rw [cons_append, outerFrom, outerFrom, ih, foldl_cons]
    split <;> rfl

theorem hasOuterTagParam_iff (toValue : Str) : hasOuterTagParam toValue = true ↔
    ";tag=".toList <:+: toAsciiLowercase (outerFrom .outside toValue) := by
  have start : (⟨false, false, false, []⟩ : TagScan) = scanAt .outside [] := rfl
  rw [hasOuterTagParam, start, foldl_scanAt, containsStr_iff, nil_append]
  rfl

end Scan

section Marks

variable {mark : Str}

/-- The characters of a tag's name are ASCII, and outside they stay outside. -/
theorem mark_plain (spelled : toAsciiLowercase mark = ";tag=".toList) :
    ∀ char ∈ mark, char.toNat < 128 ∧ char ≠ '"' ∧ char ≠ '<' := by
  have plain : ∀ char ∈ toAsciiLowercase mark, char.toNat < 128 ∧ char ≠ '"' ∧ char ≠ '<' := by
    rw [spelled]
    exact forall_mem_of_all (by decide)
  intro char member
  obtain ⟨ascii, notQuote, notBracket⟩ := plain _ (mem_map_of_mem member)
  have small : char.toNat < 128 := by
    by_contra high
    rw [toLower_of_not_ascii (Nat.le_of_not_lt high)] at ascii
    exact high ascii
  refine ⟨small, ?_, ?_⟩
  · rintro rfl
    exact notQuote (by decide)
  · rintro rfl
    exact notBracket (by decide)

theorem outerFrom_mark (plain : ∀ char ∈ mark, char ≠ '"' ∧ char ≠ '<') :
    outerFrom .outside mark = mark ∧ mark.foldl Place.next .outside = .outside := by
  induction mark with
  | nil => exact ⟨rfl, rfl⟩
  | cons char rest ih =>
    obtain ⟨notQuote, notBracket⟩ := plain char (.head _)
    obtain ⟨outer, place⟩ := ih fun other member => plain other (.tail _ member)
    have stays : Place.next .outside char = .outside := by
      simp [Place.next, notQuote, notBracket]
    rw [outerFrom, if_pos ⟨rfl, notQuote, notBracket⟩, stays, outer, foldl_cons, stays]
    exact ⟨rfl, place⟩

theorem infix_lower_iff {text : Str} : ";tag=".toList <:+: toAsciiLowercase text ↔
    ∃ before mark after, text = before ++ (mark ++ after) ∧
      toAsciiLowercase mark = ";tag=".toList := by
  constructor
  · rintro ⟨left, right, whole⟩
    obtain ⟨front, after, rfl, front', -⟩ := map_eq_append_iff.mp whole.symm
    obtain ⟨before, mark, rfl, -, spelled⟩ := map_eq_append_iff.mp front'
    exact ⟨before, mark, after, append_assoc _ _ _, spelled⟩
  · rintro ⟨before, mark, after, rfl, spelled⟩
    refine ⟨toAsciiLowercase before, toAsciiLowercase after, ?_⟩
    rw [← spelled]
    simp [toAsciiLowercase]

/-- ASCII text in lower case is part of the whole text in lower case. -/
theorem lower_infix {platform : Platform} (tables : platform.CaseTables) {before mark after : Str}
    (ascii : ∀ char ∈ mark, char.toNat < 128) :
    toAsciiLowercase mark <:+: platform.toLowercase (before ++ (mark ++ after)) := by
  obtain ⟨converted, whole, lowers⟩ := tables.lower (before ++ (mark ++ after))
  rw [whole]
  clear whole
  induction before generalizing converted with
  | nil =>
    refine List.IsPrefix.isInfix ?_
    rw [nil_append] at lowers
    induction mark generalizing converted with
    | nil => exact nil_prefix
    | cons char rest ih =>
      obtain ⟨made, others, first, more, rfl⟩ := forall₂_cons_left_iff.mp lowers
      rw [flatten_cons, first.ascii (ascii char (.head _))]
      refine prefix_cons_inj _ |>.mpr
        (ih (fun other member => ascii other (.tail _ member)) _ more)
  | cons char rest ih =>
    obtain ⟨made, others, -, more, rfl⟩ := forall₂_cons_left_iff.mp lowers
    rw [flatten_cons]
    exact (ih _ more).trans (suffix_append _ _).isInfix

end Marks

section Functions

/-- A function adds its tag to the value exactly if there is none, and a second time changes
nothing. -/
structure TagsOnce {κ : Type} (withTag : Str → κ → Str) (tagOf : κ → Str) (toValue : Str) : Prop where
  kept : HasTag toValue → ∀ key, withTag toValue key = toValue
  added : ¬ HasTag toValue → ∀ key, withTag toValue key = toValue ++ ";tag=".toList ++ tagOf key
  again : ∀ key, withTag (withTag toValue key) key = withTag toValue key

variable {κ : Type} (withTag : Str → κ → Str) (tagOf : κ → Str) (test : Str → Bool) {toValue : Str}

/-- A test that every tag parameter passes decides as it should exactly when it fails without a tag
parameter. -/
theorem tagsOnce_iff [Nonempty κ]
    (form : ∀ value key, withTag value key =
      if test value then value else value ++ ";tag=".toList ++ tagOf key)
    (passes : ∀ value, HasTag value → test value = true) (closed : Closed toValue) :
    TagsOnce withTag tagOf toValue ↔ HasTag toValue ∨ test toValue = false := by
  constructor
  · intro tags
    by_contra neither
    obtain ⟨without, passed⟩ := not_or.mp neither
    obtain ⟨key⟩ := ‹Nonempty κ›
    have same := tags.added without key
    rw [form, if_pos (Bool.not_eq_false _ ▸ passed)] at same
    have size := congrArg length same
    simp at size
  · intro holds
    refine ⟨fun has key => ?_, fun without key => ?_, fun key => ?_⟩
    · rw [form, if_pos (passes _ has)]
    · rw [form, if_neg (ne_true_of_eq_false (holds.resolve_left without))]
    · cases passed : test toValue with
      | true => simp [form, passed]
      | false =>
        have first : withTag toValue key = toValue ++ ";tag=".toList ++ tagOf key := by
          rw [form, if_neg (ne_true_of_eq_false passed)]
        have tagged : HasTag (toValue ++ ";tag=".toList ++ tagOf key) :=
          ⟨toValue, ";tag=".toList, tagOf key, append_assoc _ _ _, by decide, closed⟩
        rw [first, form, if_pos (passes _ tagged)]

theorem conference_passes {platform : Platform} (tables : platform.CaseTables) (value : Str)
    (has : HasTag value) :
    containsStr (platform.toLowercase value) ";tag=".toList = true := by
  obtain ⟨before, mark, after, rfl, spelled, -⟩ := has
  rw [containsStr_iff, ← spelled]
  exact lower_infix tables fun char member => (mark_plain spelled char member).1

theorem mwi_passes (value : Str) (has : HasTag value) :
    containsStr (toAsciiLowercase value) ";tag=".toList = true := by
  obtain ⟨before, mark, after, whole, spelled, -⟩ := has
  rw [containsStr_iff]
  exact infix_lower_iff.mpr ⟨before, mark, after, whole, spelled⟩

theorem voicemail_passes (value : Str) (has : HasTag value) :
    Voicemail.hasOuterTagParam value = true := by
  obtain ⟨before, mark, after, rfl, spelled, outside⟩ := has
  have plain := outerFrom_mark fun char member => (mark_plain spelled char member).2
  rw [hasOuterTagParam_iff, infix_lower_iff]
  refine ⟨outerFrom .outside before, mark, outerFrom .outside after, ?_, spelled⟩
  rw [outerFrom_append, ← placeAfter, outside, outerFrom_append, plain.1, plain.2]

end Functions

/-- The three functions treat a value alike exactly when it has a tag parameter, or the text of one
neither occurs in it nor in what is outside quotes and brackets. -/
theorem toTag_uniform_iff {server : Server} (tables : server.platform.CaseTables) {toValue : Str}
    (closed : Closed toValue) :
    (TagsOnce (Conference.withToTag server) id toValue ∧
      TagsOnce Voicemail.withToTag id toValue ∧
      TagsOnce (Mwi.mwiSubscribeToHeader server) (Mwi.mwiServerTag server) toValue) ↔
    HasTag toValue ∨ (¬ ";tag=".toList <:+: server.platform.toLowercase toValue ∧
      ¬ ";tag=".toList <:+: Str.toAsciiLowercase (outerFrom .outside toValue)) := by
  have empty : server.platform.toLowercase [] = [] := server.platform.toLowercase_ascii [] nofun
  have conference := tagsOnce_iff (Conference.withToTag server) id
    (fun value => Str.containsStr (server.platform.toLowercase value) ";tag=".toList)
    (fun value tag => by
      rw [Conference.withToTag]
      split
      · next none => rw [none, empty]; rfl
      · rfl)
    (conference_passes tables) closed
  have voicemail := tagsOnce_iff Voicemail.withToTag id Voicemail.hasOuterTagParam
    (fun _ _ => rfl) voicemail_passes closed
  have mwi := tagsOnce_iff (Mwi.mwiSubscribeToHeader server) (Mwi.mwiServerTag server)
    (fun value => Str.containsStr (Str.toAsciiLowercase value) ";tag=".toList)
    (fun _ _ => rfl) mwi_passes closed
  have fewer : ";tag=".toList <:+: Str.toAsciiLowercase toValue →
      ";tag=".toList <:+: server.platform.toLowercase toValue := by
    intro found
    obtain ⟨before, mark, after, rfl, spelled⟩ := infix_lower_iff.mp found
    rw [← spelled]
    exact lower_infix tables fun char member => (mark_plain spelled char member).1
  rw [conference, voicemail, mwi, ← or_and_left, ← or_and_left, Bool.eq_false_iff, ne_eq,
    Bool.eq_false_iff, ne_eq, Bool.eq_false_iff, ne_eq, containsStr_iff, containsStr_iff,
    hasOuterTagParam_iff]
  exact or_congr_right ⟨fun ⟨conference, voicemail, _⟩ => ⟨conference, voicemail⟩,
    fun ⟨conference, voicemail⟩ => ⟨conference, voicemail, fun found => conference (fewer found)⟩⟩

open Scenario

/-- A value with a tag is left as it is by all of them. -/
theorem toTag_uniform_tagged : server.platform.CaseTables ∧
    Closed "<sip:a@b>;tag=x".toList ∧
    TagsOnce (Conference.withToTag server) id "<sip:a@b>;tag=x".toList ∧
    TagsOnce Voicemail.withToTag id "<sip:a@b>;tag=x".toList ∧
    TagsOnce (Mwi.mwiSubscribeToHeader server) (Mwi.mwiServerTag server)
      "<sip:a@b>;tag=x".toList := by
  have tables : server.platform.CaseTables := Platform.caseTables_ascii _
  have closed : Closed "<sip:a@b>;tag=x".toList := by
    unfold Closed
    decide
  have has : HasTag "<sip:a@b>;tag=x".toList :=
    ⟨"<sip:a@b>".toList, ";tag=".toList, "x".toList, by decide, by decide, by decide⟩
  exact ⟨tables, closed, (toTag_uniform_iff tables closed).mpr (.inl has)⟩

/-- The tag of a URI keeps the conferences from adding one, but not the voicemail service. -/
theorem toTag_differs : Closed "<sip:a@b;tag=x>".toList ∧
    Conference.withToTag server "<sip:a@b;tag=x>".toList "t".toList =
      "<sip:a@b;tag=x>".toList ∧
    Voicemail.withToTag "<sip:a@b;tag=x>".toList "t".toList = "<sip:a@b;tag=x>;tag=t".toList ∧
    ¬ TagsOnce (Conference.withToTag server) id "<sip:a@b;tag=x>".toList := by
  have kept : Conference.withToTag server "<sip:a@b;tag=x>".toList "t".toList =
      "<sip:a@b;tag=x>".toList := by
    decide
  have without : ¬ HasTag "<sip:a@b;tag=x>".toList := fun has =>
    absurd (voicemail_passes _ has) (by decide)
  refine ⟨by unfold Closed; decide, kept, by decide, fun tags => ?_⟩
  exact absurd (kept.symm.trans (tags.added without "t".toList)) (by decide)

end Sip3.ToTag
