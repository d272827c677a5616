import TextQuery.Literal

/-!
Leap seconds of times that are read. A leap second is read as second 60 of a minute, so it is held
as an extension of second 59 (`Time.IsOnClock`), and offsets from UTC, which count whole minutes, do
not move it away from there. Main statement: whatever is read for a scalar type is on the clock
(`ScalarType.isOnClock_of_read?`).
-/

namespace TextQuery

/-! ## Times -/

/-- A leap second comes after second 59 of a minute only. -/
def Time.IsOnClock (time : Time) : Prop :=
  time.nano.val < 1000000000 ∨ time.second.val % 60 = 59

/-- A value that has a time has one with leap seconds after second 59 only. -/
def Value.IsOnClock : Value → Prop
  | dateTime moment => moment.time.IsOnClock
  | timestamp instant => instant.utc.time.IsOnClock
  | _ => True

theorem Time.isOnClock_of_ofParts? {hour minute second nano : Nat} {time : Time}
    (made : ofParts? hour minute second nano = some time) : time.IsOnClock := by
  unfold ofParts? at made
  split at made
  · rename_i ranges
    split at made
    · cases made
      right
      dsimp only
      omega
    · split at made
      · cases made
        left
        dsimp only
        omega
      · cases made
  · cases made

theorem DateTime.isOnClock_atMidnight (date : Date) : (atMidnight date).time.IsOnClock :=
  Or.inl (show 0 < 1000000000 by decide)

/-- Going back by whole minutes keeps the second within its minute. -/
theorem DateTime.isOnClock_of_earlier? {moment earlier : DateTime} {offset : Int}
    (minutes : offset % 60 = 0) (shifted : moment.earlier? offset = some earlier)
    (onClock : moment.time.IsOnClock) : earlier.time.IsOnClock := by
  unfold earlier? at shifted
  obtain ⟨date, -, rfl⟩ := Option.map_eq_some_iff.1 shifted
  rcases onClock with plain | last
  · exact Or.inl plain
  · right
    dsimp only
    omega

/-! ## Readers -/

theorem Parts.isOnClock_of_time? {parts : Parts} {time : Time} (made : parts.time? = some time) :
    time.IsOnClock := by
  unfold time? at made
  simp only [Option.bind_eq_bind, Option.bind_eq_some_iff] at made
  obtain ⟨half, -, hour, -, minute, -, made⟩ := made
  split at made
  · cases made
  · exact Time.isOnClock_of_ofParts? made

/-- The time of a moment is put together in the same way whether its parts were met or seconds since
1970 supply them. -/
theorem Parts.isOnClock_of_dateTime? {parts : Parts} {moment : DateTime}
    (made : parts.dateTime? = some moment) : moment.time.IsOnClock := by
  unfold dateTime? at made
  split at made
  · rename_i date time _ met
    split at made
    · cases made
      exact isOnClock_of_time? met
    · cases made
  · cases made
  · simp only [Option.bind_eq_bind, Option.bind_eq_some_iff, Option.pure_def] at made
    obtain ⟨seconds, -, supplied, -, date, -, time, supplies, same⟩ := made
    cases same
    exact isOnClock_of_time? supplies

theorem CompileOptions.isOnClock_of_readDateTime? {options : CompileOptions} {text : Text}
    {moment : DateTime} (read : options.readDateTime? text = some moment) :
    moment.time.IsOnClock := by
  unfold readDateTime? at read
  rcases Option.or_eq_some_iff.1 read with read | ⟨-, read⟩
  · obtain ⟨format, -, read⟩ := List.exists_of_findSome?_eq_some read
    obtain ⟨parts, -, made⟩ := Option.bind_eq_some_iff.1 read
    exact Parts.isOnClock_of_dateTime? made
  · obtain ⟨date, -, rfl⟩ := Option.map_eq_some_iff.1 read
    exact DateTime.isOnClock_atMidnight date

theorem Pattern.minutes_of_signedOffset? {between : Text → Option Text} {bare : Bool}
    {text rest : Text} {offset : Int}
    (read : signedOffset? between bare text = some (offset, rest)) : offset % 60 = 0 := by
  unfold signedOffset? at read
  obtain ⟨⟨negative, _⟩, -, read⟩ := Option.bind_eq_some_iff.1 read
  obtain ⟨⟨hours, _⟩, -, read⟩ := Option.bind_eq_some_iff.1 read
  obtain ⟨_, -, read⟩ := Option.bind_eq_some_iff.1 read
  obtain ⟨⟨minutes, _⟩, -, read⟩ := Option.bind_eq_some_iff.1 read
  cases read
  split <;> omega

theorem Timestamp.minutes_of_offset? {text rest : Text} {offset : Int}
    (read : offset? text = some (offset, rest)) : offset % 60 = 0 := by
  unfold offset? at read
  split at read
  · cases read
    rfl
  · cases read
    rfl
  · exact Pattern.minutes_of_signedOffset? (Option.filter_eq_some_iff.1 read).1

/-- Only the last steps of reading an instant count: its parts make a moment, and the offset shifts
it. -/
theorem Timestamp.isOnClock_of_read? {text : Text} :
    ∀ instant : Timestamp, read? text = some instant → instant.utc.time.IsOnClock := by
  have step : ∀ {α : Type} {first : Option α} {next : α → Option Timestamp},
      (∀ a instant, next a = some instant → instant.utc.time.IsOnClock) →
      ∀ instant, first >>= next = some instant → instant.utc.time.IsOnClock := by
    intro α first next each instant made
    obtain ⟨a, -, made⟩ := Option.bind_eq_some_iff.1 made
    exact each a instant made
  unfold read?
  iterate 18 refine step fun _ => ?_
  intro instant made
  obtain ⟨⟨offset, rest⟩, offsetRead, made⟩ := Option.bind_eq_some_iff.1 made
  obtain ⟨-, -, made⟩ := Option.bind_eq_some_iff.1 made
  obtain ⟨moment, shown, made⟩ := Option.bind_eq_some_iff.1 made
  obtain ⟨earlier, shifted, rfl⟩ := Option.map_eq_some_iff.1 made
  exact DateTime.isOnClock_of_earlier? (minutes_of_offset? offsetRead) shifted
    (Parts.isOnClock_of_dateTime? shown)

/-- Whatever is read for a scalar type is on the clock. -/
theorem ScalarType.isOnClock_of_read? {options : CompileOptions} {type : ScalarType} {text : Text}
    {content : Value} (made : type.read? options text = some content) : content.IsOnClock := by
  unfold read? at made
  split at made
  · cases made
    trivial
  · split at made <;> cases made
    trivial
  · split at made
    · cases made
      trivial
    · split at made <;> cases made
      trivial
  · rename_i type
    obtain ⟨n, -, rfl⟩ := Option.map_eq_some_iff.1 made
    cases type <;> trivial
  · obtain ⟨x, -, rfl⟩ := Option.map_eq_some_iff.1 made
    trivial
  · obtain ⟨day, -, rfl⟩ := Option.map_eq_some_iff.1 made
    trivial
  · obtain ⟨moment, read, rfl⟩ := Option.map_eq_some_iff.1 made
    exact CompileOptions.isOnClock_of_readDateTime? read
  · obtain ⟨instant, read, rfl⟩ := Option.map_eq_some_iff.1 made
    rcases Option.or_eq_some_iff.1 read with whole | ⟨-, formatted⟩
    · exact Timestamp.isOnClock_of_read? instant whole
    · obtain ⟨moment, matched, rfl⟩ := Option.map_eq_some_iff.1 formatted
      exact CompileOptions.isOnClock_of_readDateTime? matched
  · obtain ⟨id, -, rfl⟩ := Option.map_eq_some_iff.1 made
    trivial

end TextQuery
