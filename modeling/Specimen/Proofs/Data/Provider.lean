import Specimen.Data.Provider
import Specimen.Proofs.Data.Draw

/-!
# What the provider promises

Whatever the random words are, the value that a method of the provider draws is within the bounds of
its kind (`Provider.Keeps`): a whole number is one of its type and not above one thousand, a buffer has
at most sixteen bytes, an identifier carries the marks of a random one, a version has three numbers
below 10, 20 and 50, and a timestamp is a second of the years from 2000 to 2030, for which every library
of time has a point in time. Each call leaves a source of words to the next, so what holds of one call,
whatever the source, holds of all the calls of a provider.

Main statement: `Provider.bounding`.
-/

namespace Specimen.Data

/-! ## The calendar -/

/-- The days of a year of the Gregorian calendar. -/
def daysOf (year : Nat) : Nat :=
  if year % 4 = 0 ∧ (year % 100 ≠ 0 ∨ year % 400 = 0) then 366 else 365

/-- The days of all the years before a year, the year zero being the first. -/
def daysBefore : Nat → Nat
  | 0 => 0
  | year + 1 => daysBefore year + daysOf year

/-- The seconds from the beginning of 1970 to that of a year. -/
def secondsBefore (year : Nat) : Nat := (daysBefore year - daysBefore 1970) * 86400

/-- There is a day more for every fourth year but not for the hundredth, and for the four-hundredth. -/
theorem daysBefore_eq (year : Nat) :
    daysBefore year = 365 * year + (year + 3) / 4 - (year + 99) / 100 + (year + 399) / 400 := by
  induction year with
  | zero => rfl
  | succ year ih =>
    rw [daysBefore, ih, daysOf]
    split <;> omega

/-- The seconds before a year, counted from 1970, as one formula over the leap days. -/
theorem secondsBefore_eq (year : Nat) : secondsBefore year =
    (365 * year + (year + 3) / 4 - (year + 99) / 100 + (year + 399) / 400 - 719528) * 86400 := by
  rw [secondsBefore, daysBefore_eq, daysBefore_eq]

/-- A library of time: seconds since 1970 that have a point in time, and one point for those that have
none. -/
structure Clock where
  Instant : Type
  instant? : Nat → Option Instant
  epoch : Instant

/-- The point in time of a second. -/
def Clock.instant (clock : Clock) (second : Nat) : clock.Instant :=
  (clock.instant? second).getD clock.epoch

/-! ## Marks of random identifiers -/

namespace Uuid

/-- The number of the way in which an identifier is made; four if it is random. -/
def version (id : Uuid) : UInt8 := id.bytes[6]?.getD 0 >>> 4

/-- The two bits that tell the layout of an identifier. -/
def variant (id : Uuid) : UInt8 := id.bytes[8]?.getD 0 >>> 6

/-- A byte that is marked has the four high bits of the version. -/
theorem version_mark (b : UInt8) : ((b &&& 0x0F) ||| 0x40) >>> 4 = 4 := by
  cases b with
  | ofBitVec b =>
    revert b
    decide +kernel

/-- A byte that is marked has the two high bits of the variant. -/
theorem variant_mark (b : UInt8) : ((b &&& 0x3F) ||| 0x80) >>> 6 = 2 := by
  cases b with
  | ofBitVec b =>
    revert b
    decide +kernel

theorem version_ofRandom (bytes : Vector UInt8 16) : (ofRandom bytes).version = 4 := by
  rw [← version_mark bytes[6]]
  simp [version, ofRandom]

theorem variant_ofRandom (bytes : Vector UInt8 16) : (ofRandom bytes).variant = 2 := by
  rw [← variant_mark bytes[8]]
  simp [variant, ofRandom]

end Uuid

namespace Provider

open Draw

variable {category? : Option Category} {kind : ScalarKind}

/-! ## Whole numbers -/

/-- The greatest number of a type of whole numbers. -/
def greatest : ScalarKind → Nat
  | .int8 => 2 ^ 7 - 1
  | .int16 => 2 ^ 15 - 1
  | .int32 => 2 ^ 31 - 1
  | .int | .int64 => 2 ^ 63 - 1
  | .uint8 => 2 ^ 8 - 1
  | .uint16 => 2 ^ 16 - 1
  | .uint32 => 2 ^ 32 - 1
  | .uint | .uint64 => 2 ^ 64 - 1
  | _ => 0

/-- Numbers are drawn up to the greatest of the type, or one thousand. -/
theorem integerLimit_eq (h : kind.isInteger = true) :
    integerLimit kind = min (greatest kind) maxInteger := by
  revert h
  cases kind <;> decide

/-- The limits of all kinds lie within a thousand. -/
theorem integerLimit_le (kind : ScalarKind) : integerLimit kind ≤ 1000 := by
  cases kind <;> decide

/-- No integer is drawn above the limit of its kind. -/
theorem drawInteger_ensures (kind : ScalarKind) :
    (drawInteger kind).Ensures (· ≤ integerLimit kind) := by
  have hlimit := integerLimit_le kind
  unfold drawInteger
  split
  · refine (ensures_true bits32).bind fun word _ => ensures_pure ?_
    have hbyte : integerLimit .uint8 = 255 := rfl
    omega
  · have hfits : 1001 ≤ (integerWidth kind).size := by cases integerWidth kind <;> decide
    exact (between_ensures _ (Nat.zero_le _) (by omega)).mono fun _ h => h.2

/-! ## Buffers, timestamps and identifiers -/

/-- No more bytes are drawn than the limit says. -/
theorem drawBytes_ensures : drawBytes.Ensures fun bytes => bytes.length ≤ maxBytes := by
  refine (between_ensures .narrow (by decide) (by decide)).bind fun length hlength => ?_
  refine (ensures_true (Draw.bytes length)).bind fun bytes _ => ensures_pure ?_
  rw [Vector.length_toList]
  exact hlength.2

/-- The points in time that are drawn lie from the year 2000 to the year 2030. -/
theorem drawDateTime_ensures :
    drawDateTime.Ensures fun second => secondsBefore 2000 ≤ second ∧ second < secondsBefore 2031 := by
  refine (between_ensures .wide (by decide) (by decide)).mono fun second h => ?_
  rw [secondsBefore_eq, secondsBefore_eq]
  exact ⟨h.1, Nat.lt_of_le_of_lt h.2 (by decide)⟩

/-- Identifiers are drawn with the version and the variant of random ones. -/
theorem drawUuid_ensures : drawUuid.Ensures fun id => id.version = 4 ∧ id.variant = 2 :=
  (ensures_true (Draw.bytes 16)).bind fun bytes _ =>
    ensures_pure ⟨Uuid.version_ofRandom bytes, Uuid.variant_ofRandom bytes⟩

/-! ## Versions -/

/-- A text is that of a version: three numbers below 10, 20 and 50 with dots between them. -/
def IsVersion (text : String) : Prop :=
  ∃ major < 10, ∃ minor < 20, ∃ patch < 50, text =
    Text.decimalText major ++ "." ++ Text.decimalText minor ++ "." ++ Text.decimalText patch

/-- A version is a version whatever the words are. -/
theorem drawVersion_ensures :
    Phrase.drawVersion.Ensures fun phrase => ∀ words, IsVersion (phrase.text words) := by
  refine (below_ensures .narrow (by decide) (by decide)).bind fun major hmajor => ?_
  refine (below_ensures .narrow (by decide) (by decide)).bind fun minor hminor => ?_
  refine (below_ensures .narrow (by decide) (by decide)).bind fun patch hpatch => ?_
  exact ensures_pure fun words => ⟨major, hmajor, minor, hminor, patch, hpatch, rfl⟩

/-- A provider that holds the category of versions draws no other text. -/
theorem drawText_appVersion : drawText (some .appVersion) = Phrase.drawVersion := by
  rw [drawText, drawTextCategory, if_pos (by rfl), pure_bind, Phrase.draw]

/-- A text that is drawn for the version of an application is a version. -/
theorem drawText_ensures (category? : Option Category) : (drawText category?).Ensures fun phrase =>
    category? = some .appVersion → ∀ words, IsVersion (phrase.text words) := by
  rintro source rfl
  rw [drawText_appVersion]
  exact drawVersion_ensures source

/-! ## All methods -/

/-- A value is within the bounds that the method for a kind promises, if the provider holds a
category. -/
inductive Keeps (clock : Clock) (category? : Option Category) : ScalarKind → Value → Prop where
  | integer {kind : ScalarKind} {n : Nat} (whole : kind.isInteger = true)
      (le : n ≤ min (greatest kind) 1000) : Keeps clock category? kind (.integer n)
  | float32 (x : Float32) : Keeps clock category? .float32 (.float32 x)
  | float64 (x : Float) : Keeps clock category? .float64 (.float64 x)
  | text {phrase : Phrase}
      (version : category? = some .appVersion → ∀ words, IsVersion (phrase.text words)) :
      Keeps clock category? .text (.text phrase)
  | bool (b : Bool) : Keeps clock category? .bool (.bool b)
  | bytes {bytes : List UInt8} (length_le : bytes.length ≤ 16) :
      Keeps clock category? .bytes (.bytes bytes)
  /-- The second lies in the years from 2000 to 2030, and it has a point in time of its own. -/
  | dateTime {second : Nat} (first : secondsBefore 2000 ≤ second)
      (last : second < secondsBefore 2031)
      (exact : clock.instant? second = some (clock.instant second)) :
      Keeps clock category? .dateTime (.dateTime second)
  | uuid {id : Uuid} (version : id.version = 4) (variant : id.variant = 2) :
      Keeps clock category? .uuid (.uuid id)
  | point (point : Point) : Keeps clock category? .point (.point point)
  | rect (rect : Rect) : Keeps clock category? .rect (.rect rect)
  | size (size : Size) : Keeps clock category? .size (.size size)
  | vector (vector : Displacement) : Keeps clock category? .vector (.vector vector)
  | url (url : Url) : Keeps clock category? .url (.url url)

/-- A value within the bounds of its kind is drawn, whatever the source of words is. -/
theorem drawValue_ensures {clock : Clock}
    (reaches : ∀ second < secondsBefore 262000, (clock.instant? second).isSome = true)
    (category? : Option Category) (kind : ScalarKind) :
    (drawValue category? kind).Ensures (Keeps clock category? kind) := by
  have hinteger (kind : ScalarKind) (whole : kind.isInteger = true) :
      (drawInteger kind >>= fun n => pure (Value.integer n)).Ensures (Keeps clock category? kind) :=
    (drawInteger_ensures kind).bind fun n hn =>
      ensures_pure (.integer whole (integerLimit_eq whole ▸ hn))
  cases kind with
  | float32 => exact (ensures_true _).bind fun x _ => ensures_pure (.float32 x)
  | float64 => exact (ensures_true _).bind fun x _ => ensures_pure (.float64 x)
  | text => exact (drawText_ensures category?).bind fun _ h => ensures_pure (.text h)
  | bool => exact (ensures_true _).bind fun b _ => ensures_pure (.bool b)
  | bytes => exact drawBytes_ensures.bind fun _ h => ensures_pure (.bytes h)
  | dateTime =>
    refine drawDateTime_ensures.bind fun second h => ensures_pure (.dateTime h.1 h.2 ?_)
    have hlast : secondsBefore 2031 ≤ secondsBefore 262000 := by
      rw [secondsBefore_eq, secondsBefore_eq]
      decide
    obtain ⟨instant, hinstant⟩ :=
      Option.isSome_iff_exists.mp (reaches second (Nat.lt_of_lt_of_le h.2 hlast))
    rw [Clock.instant, hinstant, Option.getD_some]
  | uuid => exact drawUuid_ensures.bind fun _ h => ensures_pure (.uuid h.1 h.2)
  | point => exact (ensures_true _).bind fun x _ => ensures_pure (.point x)
  | rect => exact (ensures_true _).bind fun x _ => ensures_pure (.rect x)
  | size => exact (ensures_true _).bind fun x _ => ensures_pure (.size x)
  | vector => exact (ensures_true _).bind fun x _ => ensures_pure (.vector x)
  | url => exact (ensures_true _).bind fun x _ => ensures_pure (.url x)
  | _ => exact hinteger _ rfl

/-- The values that a provider draws when its methods for some kinds are called one after the other. -/
def drawValues (category? : Option Category) (kinds : List ScalarKind) : Draw (List Value) :=
  kinds.mapM (drawValue category?)

/-- Every value that a provider draws is within the bounds of its kind: whatever the source of words is,
whatever category is held, and whatever methods are called in whatever order. Points in time are those
of a library that has one for each second from 1970 until a far year. -/
theorem bounding {clock : Clock}
    (reaches : ∀ second < secondsBefore 262000, (clock.instant? second).isSome = true)
    (category? : Option Category) (kinds : List ScalarKind) (source : Source) :
    List.Forall₂ (Keeps clock category?) kinds (drawValues category? kinds source).1 :=
  mapM_ensures (drawValue_ensures reaches category?) kinds source

/-- A library of time whose last second is the last one of the year 262142. -/
def longClock : Clock where
  Instant := Nat
  instant? second := if second < 8210266876800 then some second else none
  epoch := 0

/-- The bounds hold of a byte, a timestamp, and a version that are drawn from a seed. -/
theorem bounding_longClock :
    (∀ second < secondsBefore 262000, (longClock.instant? second).isSome = true) ∧
      List.Forall₂ (Keeps longClock (some .appVersion)) [.int8, .dateTime, .text]
        (drawValues (some .appVersion) [.int8, .dateTime, .text] (Source.ofSeed 7)).1 := by
  have reaches : ∀ second < secondsBefore 262000, (longClock.instant? second).isSome = true := by
    intro second hsecond
    have hlast : secondsBefore 262000 ≤ 8210266876800 := by
      rw [secondsBefore_eq]
      decide
    simp [longClock, Nat.lt_of_lt_of_le hsecond hlast]
  exact ⟨reaches, bounding reaches _ _ _⟩

end Provider

end Specimen.Data
