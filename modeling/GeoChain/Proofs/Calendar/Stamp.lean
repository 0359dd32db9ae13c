import GeoChain.Calendar.Stamp
import GeoChain.Proofs.Text.Split
import Mathlib.Data.List.TakeWhile
import Mathlib.Data.Option.Basic

/-!
# The characters of stamps

Dates, times, offsets and annotations are written with letters, digits and a few marks between them.
Every reader moves on over such characters only, so a text that is read as a stamp consists of them.
Quotes are not among them.
-/

namespace GeoChain

namespace Calendar

/-- The marks that stand in stamps. -/
def marks : List Char := ['+', '-', '.', ',', ':', ' ', '[', ']', '!', '=', '/', '_']

/-- The characters that stamps are written with. -/
def IsStamped (c : Char) : Prop := c.isAlphanum ∨ c ∈ marks

instance (c : Char) : Decidable (IsStamped c) := inferInstanceAs (Decidable (_ ∨ _))

theorem isStamped_of_isDigit {c : Char} (digit : c.isDigit) : IsStamped c :=
  Or.inl (by simp [Char.isAlphanum, digit])

theorem isStamped_of_isAlpha {c : Char} (letter : c.isAlpha) : IsStamped c :=
  Or.inl (by simp [Char.isAlphanum, letter])

/-- What stands before the rest of a text is written with the characters of stamps. -/
def StampedUpTo (rest chars : List Char) : Prop := ∀ c ∈ chars, IsStamped c ∨ c ∈ rest

namespace StampedUpTo

variable {chars middle rest : List Char}

theorem refl (chars : List Char) : StampedUpTo chars chars := fun _ member => Or.inr member

theorem trans (first : StampedUpTo middle chars) (later : StampedUpTo rest middle) :
    StampedUpTo rest chars := by
  intro c member
  rcases first c member with stamped | inside
  · exact Or.inl stamped
  · exact later c inside

theorem cons {c : Char} (stamped : IsStamped c) (later : StampedUpTo rest chars) :
    StampedUpTo rest (c :: chars) := by
  intro d member
  rcases List.mem_cons.mp member with rfl | inside
  · exact Or.inl stamped
  · exact later d inside

theorem of_drop {count : Nat} (lead : ∀ c ∈ chars.take count, IsStamped c) :
    StampedUpTo (chars.drop count) chars := by
  intro c member
  rw [← List.take_append_drop count chars] at member
  rcases List.mem_append.mp member with early | late
  · exact Or.inl (lead c early)
  · exact Or.inr late

end StampedUpTo

namespace Stamp

variable {chars rest : List Char}

theorem digits?_stamped {count n : Nat} (read : digits? count chars = some (n, rest)) :
    StampedUpTo rest chars := by
  rw [digits?] at read
  split at read
  · rename_i digits
    cases read
    exact .of_drop fun c member => isStamped_of_isDigit (List.all_eq_true.mp digits.2 c member)
  · cases read

theorem below?_stamped {limit n : Nat} (read : below? limit chars = some (n, rest)) :
    StampedUpTo rest chars := by
  obtain ⟨⟨m, after⟩, digits, read⟩ := Option.bind_eq_some_iff.mp read
  dsimp only at read
  split at read
  · cases read
    exact digits?_stamped digits
  · cases read

theorem year?_stamped {year : Int} (read : year? chars = some (year, rest)) :
    StampedUpTo rest chars := by
  cases chars with
  | nil => cases read
  | cons sign chars =>
    rw [year?] at read
    split at read
    · rename_i minus
      obtain ⟨⟨n, after⟩, digits, read⟩ := Option.bind_eq_some_iff.mp read
      dsimp only at read
      split at read
      · cases read
      · cases read
        exact .cons (by rw [minus]; decide) (digits?_stamped digits)
    · split at read
      · rename_i plus
        obtain ⟨⟨n, after⟩, digits, read⟩ := Option.bind_eq_some_iff.mp read
        dsimp only at read
        split at read
        · cases read
        · cases read
          exact .cons (by rw [plus]; decide) (digits?_stamped digits)
      · obtain ⟨⟨n, after⟩, digits, same⟩ := Option.map_eq_some_iff.mp read
        cases same
        exact digits?_stamped digits

theorem after?_stamped {mark : Char} (stamped : IsStamped mark)
    (read : after? mark chars = some rest) : StampedUpTo rest chars := by
  cases chars with
  | nil => cases read
  | cons c chars =>
    rw [after?] at read
    split at read
    · rename_i same
      cases read
      exact .cons (same ▸ stamped) (.refl _)
    · cases read

/-- Where a dash may stand, what follows is read behind it. -/
theorem dash_stamped {α : Type} {marked : Prop} [Decidable marked] {next : List Char → Option α}
    {result : α} (read : (if marked then (after? '-' chars).bind next else
      (some chars).bind next) = some result) :
    ∃ rest, StampedUpTo rest chars ∧ next rest = some result := by
  split at read
  · obtain ⟨rest, dash, later⟩ := Option.bind_eq_some_iff.mp read
    exact ⟨rest, after?_stamped (by decide) dash, later⟩
  · exact ⟨chars, .refl _, read⟩

theorem date?_stamped {date : Date} (read : date? chars = some (date, rest)) :
    StampedUpTo rest chars := by
  simp only [date?, Option.bind_eq_bind] at read
  obtain ⟨⟨year, afterYear⟩, readYear, read⟩ := Option.bind_eq_some_iff.mp read
  obtain ⟨toMonth, firstDash, read⟩ := dash_stamped read
  obtain ⟨⟨month, afterMonth⟩, readMonth, read⟩ := Option.bind_eq_some_iff.mp read
  obtain ⟨toDay, secondDash, read⟩ := dash_stamped read
  obtain ⟨⟨day, afterDay⟩, readDay, read⟩ := Option.bind_eq_some_iff.mp read
  dsimp only at read
  split at read
  · cases read
    exact (year?_stamped readYear).trans (firstDash.trans ((digits?_stamped readMonth).trans
      (secondDash.trans (digits?_stamped readDay))))
  · cases read

theorem fraction?_stamped {n : Nat} (read : fraction? chars = some (n, rest)) :
    StampedUpTo rest chars := by
  cases chars with
  | nil =>
    cases read
    exact .refl _
  | cons mark chars =>
    rw [fraction?] at read
    split at read
    · rename_i point
      dsimp only at read
      split at read
      · cases read
      · cases read
        refine .cons (by rcases point with rfl | rfl <;> decide) (.of_drop fun c member => ?_)
        have prefixed : ((chars.take 9).takeWhile Char.isDigit) <+: chars :=
          (List.takeWhile_prefix _).trans (List.take_prefix 9 chars)
        rw [← List.prefix_iff_eq_take.mp prefixed] at member
        exact isStamped_of_isDigit (List.mem_takeWhile_imp member)
    · cases read
      exact .refl _

theorem nextPart?_stamped {marked : Bool} (read : nextPart? marked chars = some rest) :
    StampedUpTo rest chars := by
  rw [nextPart?] at read
  split at read
  · exact after?_stamped (by decide) read
  · split at read
    · cases read
      exact .refl _
    · cases read

theorem clock?_stamped {hours seconds : Nat} {clock : Clock}
    (read : clock? hours seconds chars = some (clock, rest)) : StampedUpTo rest chars := by
  simp only [clock?, Option.bind_eq_bind, Option.bind_eq_some_iff] at read
  obtain ⟨⟨hour, afterHour⟩, readHour, read⟩ := read
  refine (below?_stamped readHour).trans ?_
  dsimp only at read
  split at read
  · cases read
    exact .refl _
  · rename_i toMinute
    obtain ⟨⟨minute, afterMinute⟩, readMinute, read⟩ := Option.bind_eq_some_iff.mp read
    refine (nextPart?_stamped toMinute).trans ((below?_stamped readMinute).trans ?_)
    dsimp only at read
    split at read
    · cases read
      exact .refl _
    · rename_i toSecond
      obtain ⟨⟨second, afterSecond⟩, readSecond, read⟩ := Option.bind_eq_some_iff.mp read
      obtain ⟨⟨nano, afterFraction⟩, readFraction, read⟩ := Option.bind_eq_some_iff.mp read
      cases read
      exact (nextPart?_stamped toSecond).trans ((below?_stamped readSecond).trans
        (fraction?_stamped readFraction))

theorem offset?_stamped {offset : Option Offset} (read : offset? chars = some (offset, rest)) :
    StampedUpTo rest chars := by
  cases chars with
  | nil =>
    cases read
    exact .refl _
  | cons c chars =>
    rw [offset?] at read
    split at read
    · rename_i zulu
      cases read
      exact .cons (by rcases zulu with rfl | rfl <;> decide) (.refl _)
    · split at read
      · rename_i sign
        obtain ⟨⟨clock, after⟩, readClock, same⟩ := Option.map_eq_some_iff.mp read
        cases same
        exact .cons (by rcases sign with rfl | rfl <;> decide) (clock?_stamped readClock)
      · cases read
        exact .refl _

theorem timed?_stamped {clock : Option Clock} {offset : Option Offset}
    (read : timed? chars = some (clock, offset, rest)) : StampedUpTo rest chars := by
  cases chars with
  | nil =>
    cases read
    exact .refl _
  | cons c chars =>
    rw [timed?] at read
    split at read
    · rename_i mark
      simp only [timeOfDay?, Option.bind_eq_bind, Option.bind_eq_some_iff,
        Option.map_eq_some_iff] at read
      obtain ⟨_, ⟨⟨time, afterTime⟩, readTime, rfl⟩, ⟨shift, afterShift⟩, readShift, read⟩ := read
      cases read
      refine .cons (by rcases mark with rfl | rfl | rfl <;> decide) ?_
      exact (clock?_stamped readTime).trans (offset?_stamped readShift)
    · cases read
      exact .refl _

/-- A text whose parts between a mark are stamped is stamped, if the mark is. -/
theorem stamped_of_split (mark : Char) (stamped : IsStamped mark)
    (parts : ∀ part ∈ Text.split mark chars, StampedUpTo [] part) : StampedUpTo [] chars := by
  intro c member
  rcases Text.mem_split mark member with rfl | ⟨part, among, inside⟩
  · exact Or.inl stamped
  · exact parts part among c inside

theorem isKeyStart_stamped {c : Char} (start : isKeyStart c) : IsStamped c := by
  rcases Bool.or_eq_true_iff.mp start with lower | underscore
  · exact isStamped_of_isAlpha (Bool.or_eq_true_iff.mpr (Or.inr lower))
  · rw [of_decide_eq_true underscore]
    decide

theorem isKey_stamped (key : isKey chars) : StampedUpTo [] chars := by
  cases chars with
  | nil => exact .refl _
  | cons c chars =>
    obtain ⟨first, others⟩ := Bool.and_eq_true_iff.mp key
    refine .cons (isKeyStart_stamped first) fun d member => Or.inl ?_
    have kept := List.all_eq_true.mp others d member
    simp only [Bool.or_eq_true, decide_eq_true_eq] at kept
    rcases kept with (start | digit) | rfl
    · exact isKeyStart_stamped start
    · exact isStamped_of_isDigit digit
    · decide

theorem isKeyed_stamped (keyed : isKeyed chars) : StampedUpTo [] chars := by
  rw [isKeyed] at keyed
  split at keyed
  · rename_i key value found
    obtain ⟨isKey, isValue⟩ := Bool.and_eq_true_iff.mp keyed
    have valued : StampedUpTo [] value := by
      refine stamped_of_split '-' (by decide) fun run among c inside => ?_
      have letters := (Bool.and_eq_true_iff.mp (List.all_eq_true.mp isValue run among)).2
      exact Or.inl (Or.inl (List.all_eq_true.mp letters c inside))
    rw [Text.splitFirst?_eq_some found]
    intro c member
    rcases List.mem_append.mp member with early | late
    · exact isKey_stamped isKey c early
    · exact StampedUpTo.cons (by decide) valued c late
  · cases keyed

theorem isZoneStart_stamped {c : Char} (start : isZoneStart c) : IsStamped c := by
  simp only [isZoneStart, Bool.or_eq_true, decide_eq_true_eq] at start
  rcases start with (letter | rfl) | rfl
  · exact isStamped_of_isAlpha letter
  · decide
  · decide

theorem isZonePart_stamped (part : isZonePart chars) : StampedUpTo [] chars := by
  cases chars with
  | nil => exact .refl _
  | cons c chars =>
    obtain ⟨first, others⟩ := Bool.and_eq_true_iff.mp part
    refine .cons (isZoneStart_stamped first) fun d member => Or.inl ?_
    have kept := List.all_eq_true.mp others d member
    simp only [Bool.or_eq_true, decide_eq_true_eq] at kept
    rcases kept with ((start | digit) | rfl) | rfl
    · exact isZoneStart_stamped start
    · exact isStamped_of_isDigit digit
    · decide
    · decide

theorem isZoneOffset_stamped (shift : isZoneOffset chars) : StampedUpTo [] chars := by
  rw [isZoneOffset] at shift
  split at shift
  · cases shift
  · rename_i hour afterHour readHour
    refine (below?_stamped readHour).trans ?_
    rcases Bool.or_eq_true_iff.mp shift with ends | shift
    · rw [List.isEmpty_iff.mp ends]
      exact .refl _
    · split at shift
      · cases shift
      · rename_i toMinute next
        split at shift
        · rename_i minute afterMinute readMinute
          rw [List.isEmpty_iff.mp shift] at readMinute
          exact (nextPart?_stamped next).trans (below?_stamped readMinute)
        · cases shift

theorem isZone_stamped (zone : isZone chars) : StampedUpTo [] chars := by
  have critical : StampedUpTo ((after? '!' chars).getD chars) chars := by
    cases marked : after? '!' chars with
    | none => exact .refl _
    | some rest => exact after?_stamped (by decide) marked
  refine critical.trans ?_
  rw [isZone] at zone
  generalize (after? '!' chars).getD chars = name at zone ⊢
  cases name with
  | nil => exact .refl _
  | cons c rest =>
    dsimp only at zone
    split at zone
    · rename_i sign
      exact .cons (by rcases sign with rfl | rfl <;> decide) (isZoneOffset_stamped zone)
    · exact stamped_of_split '/' (by decide) fun part among =>
        isZonePart_stamped (List.all_eq_true.mp zone part among)

theorem areAnnotations_stamped {texts : List (List Char)} (proper : areAnnotations texts) :
    ∀ text ∈ texts, StampedUpTo [] text := by
  cases texts with
  | nil => exact List.forall_mem_nil _
  | cons first others =>
    obtain ⟨head, tail⟩ := Bool.and_eq_true_iff.mp proper
    refine List.forall_mem_cons.mpr ⟨?_, fun text among =>
      isKeyed_stamped (List.all_eq_true.mp tail text among)⟩
    rcases Bool.or_eq_true_iff.mp head with zone | keyed
    · exact isZone_stamped zone
    · exact isKeyed_stamped keyed

/-- Annotations are as stamped as the texts between their brackets. -/
theorem annotations?_stamped (chars : List Char) :
    (∀ texts, annotations? chars = some texts → (∀ text ∈ texts, StampedUpTo [] text) →
      StampedUpTo [] chars) ∧
    ∀ text others, inside? chars = some (text, others) → StampedUpTo [] text →
      (∀ other ∈ others, StampedUpTo [] other) → StampedUpTo [] chars := by
  induction chars with
  | nil => exact ⟨fun _ _ _ => .refl _, fun _ _ _ _ _ => .refl _⟩
  | cons c rest ih =>
    obtain ⟨ihOpen, ihInside⟩ := ih
    constructor
    · intro texts read stamped
      rw [annotations?] at read
      split at read
      · rename_i bracket
        obtain ⟨⟨text, others⟩, inside, rfl⟩ := Option.map_eq_some_iff.mp read
        obtain ⟨first, later⟩ := List.forall_mem_cons.mp stamped
        exact .cons (by rw [bracket]; decide) (ihInside text others inside first later)
      · cases read
    · intro text others read first later
      rw [inside?] at read
      split at read
      · rename_i bracket
        obtain ⟨found, opened, same⟩ := Option.map_eq_some_iff.mp read
        cases same
        exact .cons (by rw [bracket]; decide) (ihOpen others opened later)
      · obtain ⟨⟨tail, found⟩, inside, same⟩ := Option.map_eq_some_iff.mp read
        cases same
        have here : IsStamped c := by
          rcases first c List.mem_cons_self with stamped | none
          · exact stamped
          · cases none
        exact .cons here (ihInside tail others inside
          (fun d member => first d (List.mem_cons_of_mem _ member)) later)

/-- A text that is read as a stamp consists of the characters of stamps. -/
theorem read?_stamped {stamp : Stamp} (read : read? chars = some stamp) :
    ∀ c ∈ chars, IsStamped c := by
  simp only [read?, Option.bind_eq_bind, Option.bind_eq_some_iff] at read
  obtain ⟨⟨date, afterDate⟩, readDate, ⟨clock, offset, afterTime⟩, readTime, texts, opened,
    read⟩ := read
  dsimp only at readTime opened read
  split at read
  · rename_i proper
    have stamped := (annotations?_stamped afterTime).1 texts opened (areAnnotations_stamped proper)
    have whole := (date?_stamped readDate).trans ((timed?_stamped readTime).trans stamped)
    intro c member
    rcases whole c member with here | none
    · exact here
    · cases none
  · cases read

theorem isBound_stamped (bounds : isBound chars) : ∀ c ∈ chars, IsStamped c := by
  rw [isBound] at bounds
  split at bounds
  · cases bounds
  · rename_i stamp read
    exact read?_stamped read

end Stamp

end Calendar

end GeoChain
