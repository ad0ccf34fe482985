import Profiling.Arguments
import Profiling.Proofs.CanonicalUrls
import Profiling.Proofs.Digits

/-!
# Timeouts

A profile is waited for as long as was asked, or half as long again as it takes, or for a minute,
and the transport gives it five seconds more. Durations have no room for all of these sums, and
nothing keeps a command line from asking for one that does not fit.
-/

namespace Profiling

namespace Duration

theorem isZero_ofSeconds (n : Nat) : (ofSeconds n).isZero = decide (n = 0) := by
  have second : perSecond ≠ 0 := by decide
  rw [Bool.eq_iff_iff, isZero, ofSeconds, beq_iff_eq, decide_eq_true_eq, Nat.mul_eq_zero]
  exact or_iff_left second

/-- A sum that has to fit. -/
theorem add?_elim_iff {a b c : Duration} {e : ε} :
    (a.add? b).elim (.error e) .ok = (.ok c : Except ε Duration) ↔
      a.nanos + b.nanos < limit ∧ c.nanos = a.nanos + b.nanos := by
  obtain ⟨n⟩ := c
  rw [add?]
  split
  · rename_i fits
    simp [fits, eq_comm]
  · rename_i full
    simp [full]

end Duration

namespace Source

open Url

/-- A text is a number of 31 bits in decimal, perhaps with a sign; only zero may be negative. -/
def Denotes (value : List Char) (n : Nat) : Prop :=
  n < 1 <<< 31 ∧ ∃ digits, digits ≠ [] ∧ (∀ c ∈ digits, c.isDigit = true) ∧
    n = Nat.ofDigitChars 10 digits 0 ∧
      (value = digits ∨ value = '+' :: digits ∨ value = '-' :: digits ∧ n = 0)

def sign (value : List Char) : Bool × List Char :=
  match value with
  | '-' :: digits => (true, digits)
  | '+' :: digits => (false, digits)
  | digits => (false, digits)

theorem sign_cases (value : List Char) :
    value = (sign value).2 ∨ value = '+' :: (sign value).2 ∨
      value = '-' :: (sign value).2 ∧ (sign value).1 = true := by
  rw [sign.eq_def]
  split <;> simp

theorem sign_of_digits {digits : List Char} (all : ∀ c ∈ digits, c.isDigit = true) :
    sign digits = (false, digits) := by
  rw [sign.eq_def]
  split
  · exact absurd (all '-' List.mem_cons_self) (by decide)
  · exact absurd (all '+' List.mem_cons_self) (by decide)
  · rfl

theorem readSeconds?_eq (value : List Char) : readSeconds? value =
    (Digits.read? 10 (1 <<< 31) (sign value).2).filter fun n => !(sign value).1 || n = 0 :=
  rfl

theorem readSeconds?_eq_some_iff {value : List Char} {n : Nat} :
    readSeconds? value = some n ↔ Denotes value n := by
  rw [readSeconds?_eq, Option.filter_eq_some_iff,
    Digits.read?_ten_eq_some_iff]
  constructor
  · rintro ⟨⟨small, nonempty, digits, same⟩, positive⟩
    refine ⟨small, _, nonempty, digits, same, ?_⟩
    rcases sign_cases value with plain | plus | ⟨minus, below⟩
    · exact Or.inl plain
    · exact Or.inr (Or.inl plus)
    · exact Or.inr (Or.inr ⟨minus, by simpa [below] using positive⟩)
  · rintro ⟨small, digits, nonempty, all, same, written⟩
    have parted : (sign value).2 = digits ∧ ((sign value).1 = true → n = 0) := by
      rcases written with rfl | rfl | ⟨rfl, zero⟩
      · simp [sign_of_digits all]
      · simp [sign]
      · simp [sign, zero]
    obtain ⟨rfl, zero⟩ := parted
    refine ⟨⟨small, nonempty, all, same⟩, ?_⟩
    cases minus : (sign value).1 with
    | false => rfl
    | true => exact decide_eq_true (zero minus)

/-- The first of the parameters for seconds asks for a number of them. -/
def Asks (ps : List Parameter) (n : Nat) : Prop :=
  ∃ before value after, ps = before ++ (secondsKey, value) :: after ∧
    (∀ p ∈ before, p.1 ≠ secondsKey) ∧ Denotes value n

theorem asks_iff {ps : List Parameter} {n : Nat} :
    Asks ps n ↔ ((ps.find? (·.1 = secondsKey)).bind fun (_, value) => readSeconds? value) =
      some n := by
  simp only [Option.bind_eq_some_iff, List.find?_eq_some_iff_append, readSeconds?_eq_some_iff]
  constructor
  · rintro ⟨before, value, after, rfl, others, number⟩
    exact ⟨(secondsKey, value), ⟨by simp, before, after, rfl, by simpa using others⟩, number⟩
  · rintro ⟨⟨key, value⟩, ⟨seconds, before, after, rfl, others⟩, number⟩
    obtain rfl : key = secondsKey := by simpa using seconds
    exact ⟨before, value, after, rfl, by simpa using others, number⟩

/-- How many seconds a profile takes: those that are given, or those that the query asks for. -/
inductive Lasts (given : Nat) (ps : List Parameter) : Nat → Prop
  | given : given ≠ 0 → Lasts given ps given
  | query {n : Nat} : given = 0 → Asks ps n → Lasts given ps n
  | unknown : given = 0 → (∀ n, ¬Asks ps n) → Lasts given ps 0

theorem exists_lasts (given : Nat) (ps : List Parameter) :
    ∃ n, Lasts given ps n ∧ lasting (.ofSeconds given) ps = .ofSeconds n := by
  rw [lasting, Duration.isZero_ofSeconds]
  by_cases zero : given = 0
  · rw [if_pos (decide_eq_true zero), queryDuration]
    cases asked : (ps.find? (·.1 = secondsKey)).bind fun (_, value) => readSeconds? value with
    | none =>
      refine ⟨0, .unknown zero fun n number => ?_, rfl⟩
      rw [asks_iff, asked] at number
      cases number
    | some n => exact ⟨n, .query zero (asks_iff.mpr asked), rfl⟩
  · rw [if_neg (by simpa using zero)]
    exact ⟨given, .given zero, rfl⟩

/-- Queries ask for few seconds. -/
theorem Lasts.le {given n : Nat} {ps : List Parameter} (h : Lasts given ps n) :
    n = given ∨ given = 0 ∧ n < 1 <<< 31 := by
  cases h with
  | given positive => exact Or.inl rfl
  | query zero asked =>
    obtain ⟨_, _, _, _, _, small, _⟩ := asked
    exact Or.inr ⟨zero, small⟩
  | unknown zero nothing => exact Or.inl zero.symm

/-- The nanoseconds of a timeout, as if there were no limit. -/
def due (timeout lasts : Nat) : Nat :=
  if timeout ≠ 0 then timeout * 1000000000
  else if lasts ≠ 0 then lasts * 1500000000
  else 60000000000

theorem timeoutFor_eq {lasting timeout : Duration} : timeoutFor lasting timeout =
    if !timeout.isZero then .ok timeout
    else if lasting.isZero then .ok defaultTimeout
    else (lasting.add? lasting.half).elim (.error .timeout) .ok := by
  rw [timeoutFor]
  cases lasting.add? lasting.half <;> rfl

/-- A timeout is found if it fits a duration. -/
theorem timeoutFor_eq_ok_iff {lasts timeout : Nat} {d : Duration} (fits : timeout < UInt64.size) :
    timeoutFor (.ofSeconds lasts) (.ofSeconds timeout) = .ok d ↔
      due timeout lasts < Duration.limit ∧ d.nanos = due timeout lasts := by
  have limit : Duration.limit = UInt64.size * 1000000000 := by decide
  have exact_sum : lasts * 1000000000 + lasts * 1000000000 / 2 = lasts * 1500000000 := by omega
  obtain ⟨nanos⟩ := d
  rw [timeoutFor_eq, due, Duration.isZero_ofSeconds, Duration.isZero_ofSeconds]
  by_cases asked : timeout = 0
  · by_cases known : lasts = 0
    · have room : 60000000000 < Duration.limit := by decide
      simp [asked, known, room, defaultTimeout, Duration.ofSeconds, Duration.perSecond, eq_comm]
    · simp [asked, known, Duration.add?_elim_iff, Duration.ofSeconds, Duration.half,
        Duration.perSecond, exact_sum]
  · have room : timeout * 1000000000 < Duration.limit := by omega
    simp [asked, room, Duration.ofSeconds, Duration.perSecond, eq_comm]

theorem transportTimeout_eq_ok_iff {timeout total : Duration} :
    transportTimeout timeout = .ok total ↔
      timeout.nanos + 5000000000 < Duration.limit ∧ total.nanos = timeout.nanos + 5000000000 := by
  have seconds : grace.nanos = 5000000000 := by decide
  rw [transportTimeout, Duration.add?_elim_iff, seconds]

/-- A duration from a query is so short that its timeout always fits. -/
theorem due_fits_iff {seconds timeout n : Nat} {ps : List Parameter} (h : Lasts seconds ps n) :
    due timeout n + 5000000000 < Duration.limit ↔
      if timeout = 0 then 3 * seconds + 10 < 2 * UInt64.size else timeout + 5 < UInt64.size := by
  have limit : Duration.limit = 18446744073709551616 * 1000000000 := by decide
  have small : (1 : Nat) <<< 31 = 2147483648 := by decide
  rw [limit, due, UInt64.size]
  by_cases asked : timeout = 0
  · rw [if_neg (not_not.mpr asked), if_pos asked]
    rcases h.le with rfl | ⟨rfl, short⟩
    · split <;> omega
    · split <;> omega
  · rw [if_pos asked, if_neg asked]
    omega

/-- Both timeouts of a source with a URL can be computed if the later sum fits. -/
theorem exists_total_iff {source : String} {u : Url} (read : url? source = some u)
    {seconds timeout n : Nat} (fits : timeout < UInt64.size)
    (lasts : lasting (.ofSeconds seconds) u.parameters = .ofSeconds n) :
    (∃ r total, remote? source (.ofSeconds seconds) (.ofSeconds timeout) = .ok (some r) ∧
      transportTimeout r.timeout = .ok total) ↔
        due timeout n + 5000000000 < Duration.limit := by
  constructor
  · rintro ⟨r, total, found, sum⟩
    obtain ⟨v, read', timed, -⟩ := remote?_eq_ok_iff.mp found
    obtain rfl : u = v := Option.some.inj (read.symm.trans read')
    rw [lasts] at timed
    obtain ⟨-, exactly⟩ := (timeoutFor_eq_ok_iff fits).mp timed
    obtain ⟨room, -⟩ := transportTimeout_eq_ok_iff.mp sum
    rwa [exactly] at room
  · intro room
    let t : Duration := ⟨due timeout n⟩
    have timed : timeoutFor (lasting (.ofSeconds seconds) u.parameters) (.ofSeconds timeout) =
        .ok t := by
      rw [lasts]
      exact (timeoutFor_eq_ok_iff fits).mpr ⟨by omega, rfl⟩
    refine ⟨⟨_, t⟩, ⟨t.nanos + 5000000000⟩, remote?_eq_ok_iff.mpr ⟨u, read, timed, rfl⟩, ?_⟩
    exact transportTimeout_eq_ok_iff.mpr ⟨room, rfl⟩

/-- The timeouts of a source can be computed, unless it is a file. -/
def Timed (source : String) (seconds timeout : UInt64) : Prop :=
  remote? source (.ofSeconds seconds.toNat) (.ofSeconds timeout.toNat) = .ok none ∨
    ∃ r total, remote? source (.ofSeconds seconds.toNat) (.ofSeconds timeout.toNat) = .ok (some r) ∧
      transportTimeout r.timeout = .ok total

/-- The timeouts of a source can be computed exactly if, of a timeout that is given, five seconds
more fit 64 bits, and otherwise, of the seconds that are given, half as many again and five more.
Then the timeout is the given one, or one and a half times what the profile takes, or a minute. -/
theorem timed_iff (source : String) (seconds timeout : UInt64) :
    (Timed source seconds timeout ↔ url? source = none ∨
      if timeout = 0 then 3 * seconds.toNat + 10 < 2 * UInt64.size
      else timeout.toNat + 5 < UInt64.size) ∧
    ∀ r, remote? source (.ofSeconds seconds.toNat) (.ofSeconds timeout.toNat) = .ok (some r) →
      ∃ u n, url? source = some u ∧ Lasts seconds.toNat u.parameters n ∧
        r.timeout.nanos = due timeout.toNat n := by
  have fits : timeout.toNat < UInt64.size := timeout.toNat_lt
  constructor
  · rw [Timed, remote?_eq_none_iff]
    cases read : url? source with
    | none => simp
    | some u =>
      obtain ⟨n, lasts, same⟩ := exists_lasts seconds.toNat u.parameters
      have none_given : timeout = 0 ↔ timeout.toNat = 0 := UInt64.toNat_inj.symm
      rw [exists_total_iff read fits same, due_fits_iff lasts, if_congr none_given rfl rfl]
  · intro r found
    obtain ⟨u, read, timed, -⟩ := remote?_eq_ok_iff.mp found
    obtain ⟨n, lasts, same⟩ := exists_lasts seconds.toNat u.parameters
    rw [same] at timed
    exact ⟨u, n, read, lasts, ((timeoutFor_eq_ok_iff fits).mp timed).2⟩

def longest : Duration := .ofSeconds 18446744073709551615

def patient : Arguments where
  config := { sources := ["http://[::1]/p"], timeout := longest }

def lengthy : Arguments where
  config := { sources := ["http://[::1]/p"], duration := longest }

def patientRemote : Remote where
  url := { scheme := "http", host := some (.ipv6 [0, 0, 0, 0, 0, 0, 0, 1]), path := "/p" }
  timeout := longest

/-- Both are accepted, and for neither of them all timeouts can be computed. -/
theorem not_timed :
    Arguments.parse ["http://[::1]/p", "--timeout", "18446744073709551615"] = .ok patient ∧
      remote? "http://[::1]/p" patient.config.duration patient.config.timeout =
        .ok (some patientRemote) ∧
      transportTimeout patientRemote.timeout = .error .timeout ∧
    Arguments.parse ["http://[::1]/p", "--seconds", "18446744073709551615"] = .ok lengthy ∧
      remote? "http://[::1]/p" lengthy.config.duration lengthy.config.timeout =
        .error .timeout := by
  refine ⟨?_, ?_, ?_, ?_, ?_⟩ <;> decide +kernel

end Source

end Profiling
