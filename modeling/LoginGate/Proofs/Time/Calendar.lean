import LoginGate.Time.Instant

/-!
Contract: which instants the calendar has, and what addition gives.

Owns:
- the year of a day, as the only year that begins at this day or before and ends behind it;
- the bounds of the calendar in seconds;
- the law that addition gives the instant a span later, and fails only where the calendar has none.

Does not own: months and days within a year (`Time.Rfc3339`).
-/

namespace LoginGate

namespace Instant

/-! ## Years -/

/-- A year is at most one off from the quotient of its days by the mean length of a year. -/
theorem daysBeforeYear_guess (days : Int) :
    daysBeforeYear (days * 400 / 146097 - 1) ≤ days ∧
      days < daysBeforeYear (days * 400 / 146097 + 2) := by
  unfold daysBeforeYear
  omega

private theorem yearOfDay_spec (day : Int) :
    daysBeforeYear (yearOfDay day) ≤ day + daysBeforeYear 1970 ∧
      day + daysBeforeYear 1970 < daysBeforeYear (yearOfDay day + 1) := by
  have bounds := daysBeforeYear_guess (day + daysBeforeYear 1970)
  unfold yearOfDay
  dsimp only
  split
  · simpa using ⟨bounds.1, by assumption⟩
  split
  · exact ⟨by assumption, by simpa [Int.add_assoc] using bounds.2⟩
  · constructor <;> omega

private theorem daysBeforeYear_mono {year later : Int} (le : year ≤ later) :
    daysBeforeYear year ≤ daysBeforeYear later := by
  unfold daysBeforeYear
  omega

/-- A year has come at a day exactly if it begins at this day or before. -/
theorem le_yearOfDay_iff {year day : Int} :
    year ≤ yearOfDay day ↔ daysBeforeYear year ≤ day + daysBeforeYear 1970 := by
  obtain ⟨begins, ends⟩ := yearOfDay_spec day
  constructor
  · intro le
    exact Int.le_trans (daysBeforeYear_mono le) begins
  · intro begun
    apply Int.not_lt.1
    intro later
    have mono := daysBeforeYear_mono (Int.add_one_le_iff.2 later)
    omega

/-! ## The calendar -/

def firstSecond : Int := (daysBeforeYear yearRange.1 - daysBeforeYear 1970) * 86400

def lastSecond : Int := (daysBeforeYear (yearRange.2 + 1) - daysBeforeYear 1970) * 86400 - 1

theorem inRange_iff {instant : Instant} :
    instant.inRange = true ↔ firstSecond ≤ instant.seconds ∧ instant.seconds ≤ lastSecond := by
  have begun := @le_yearOfDay_iff yearRange.1 (instant.seconds / 86400)
  have ended := @le_yearOfDay_iff (yearRange.2 + 1) (instant.seconds / 86400)
  unfold inRange isYearInRange firstSecond lastSecond
  rw [Bool.and_eq_true, decide_eq_true_iff, decide_eq_true_iff]
  omega

/-! ## Addition -/

/-- The nanoseconds from the start of 1970. -/
def total (instant : Instant) : Int := instant.seconds * 1000000000 + instant.nanos

def ofTotal (total : Int) : Instant where
  seconds := total / 1000000000
  nanos := (total % 1000000000).toNat

@[simp] theorem total_ofTotal (nanos : Int) : (ofTotal nanos).total = nanos := by
  simp only [Instant.total, ofTotal]
  omega

private theorem nanos_ofTotal (total : Int) : (ofTotal total).nanos < 1000000000 := by
  simp only [ofTotal]
  omega

/-- With fewer nanoseconds than a second has, an instant is known by its total. -/
theorem ofTotal_total {instant : Instant} (normal : instant.nanos < 1000000000) :
    ofTotal instant.total = instant := by
  have seconds : (instant.seconds * 1000000000 + instant.nanos) / 1000000000 =
      instant.seconds := by
    omega
  have nanos : ((instant.seconds * 1000000000 + instant.nanos) % 1000000000).toNat =
      instant.nanos := by
    omega
  unfold ofTotal Instant.total
  rw [seconds, nanos]

/-- An instant of the calendar that lies a number of nanoseconds behind another. -/
structure IsSum (instant : Instant) (nanos : Int) (sum : Instant) : Prop where
  total : sum.total = instant.total + nanos
  normal : sum.nanos < 1000000000
  inRange : sum.inRange = true

theorem isSum_iff {instant sum : Instant} {nanos : Int} :
    instant.IsSum nanos sum ↔
      sum = ofTotal (instant.total + nanos) ∧ (ofTotal (instant.total + nanos)).inRange = true := by
  constructor
  · rintro ⟨total, normal, inside⟩
    have same : ofTotal (instant.total + nanos) = sum := by
      rw [← total, ofTotal_total normal]
    exact ⟨same.symm, same ▸ inside⟩
  · rintro ⟨rfl, inside⟩
    exact ⟨total_ofTotal _, nanos_ofTotal _, inside⟩

/-- **Addition is exact.** It gives an instant exactly if the calendar has the one that lies the span
later, and then gives this one. -/
theorem add?_eq_some_iff {instant sum : Instant} {span : Span} :
    instant.add? span = some sum ↔ instant.IsSum span.nanos sum := by
  have carried : instant.seconds + (instant.nanos + span.nanos) / 1000000000 =
      (instant.total + span.nanos) / 1000000000 := by
    unfold Instant.total
    omega
  have left : (instant.nanos + span.nanos) % 1000000000 =
      (instant.total + span.nanos) % 1000000000 := by
    unfold Instant.total
    omega
  have whole : instant.add? span =
      if (ofTotal (instant.total + span.nanos)).inRange then
        some (ofTotal (instant.total + span.nanos)) else none := by
    unfold add? ofTotal
    dsimp only
    rw [carried, left]
  rw [whole, isSum_iff, Option.ite_none_right_eq_some, Option.some.injEq]
  constructor
  · rintro ⟨inside, same⟩
    exact ⟨same.symm, inside⟩
  · rintro ⟨same, inside⟩
    exact ⟨inside, same.symm⟩

/-- The calendar has the instant a number of nanoseconds later exactly if this is between its
bounds. -/
theorem exists_isSum_iff {instant : Instant} {nanos : Int} :
    (∃ sum, instant.IsSum nanos sum) ↔
      firstSecond * 1000000000 ≤ instant.total + nanos ∧
        instant.total + nanos < (lastSecond + 1) * 1000000000 := by
  have inside : (∃ sum, instant.IsSum nanos sum) ↔
      (ofTotal (instant.total + nanos)).inRange = true :=
    ⟨fun ⟨_, isSum⟩ => (isSum_iff.1 isSum).2, fun inside => ⟨_, isSum_iff.2 ⟨rfl, inside⟩⟩⟩
  rw [inside, inRange_iff]
  simp only [ofTotal]
  omega

end Instant
end LoginGate
