import RecordMapper.Value.Integer

/-!
# Instants

An instant is a whole number of seconds since the epoch and a number of nanoseconds below one
second, so the seconds of an instant before the epoch are rounded down. A column keeps an instant
as its distance from the epoch in nanoseconds, where that fits sixty-four bits.
-/

namespace RecordMapper

/-- An instant, as floored seconds since the epoch and nanoseconds within the second. -/
structure Instant where
  seconds : Int
  nanos : Nat
  nanos_lt : nanos < 1000000000
deriving DecidableEq

namespace Instant

/-- The instant from which others are measured. -/
def epoch : Instant := ⟨0, 0, by decide⟩

/-- The nanoseconds since the epoch, negative before it. -/
def sinceEpoch (t : Instant) : Int :=
  t.seconds * 1000000000 + t.nanos

/-- The nanoseconds since the epoch, if they fit a column. The distance from the epoch must fit on
either side of it, so the least integer, which has no opposite, stands for no instant. -/
def toNanos? (t : Instant) : Option Integer64 :=
  (Bounded.ofInt? .i64 t.sinceEpoch.natAbs).bind fun distance =>
    Bounded.ofInt? .i64 (if t.sinceEpoch < 0 then -distance.val else distance.val)

/-- The instant a number of nanoseconds after the epoch. -/
def ofNanos (n : Integer64) : Instant :=
  ⟨n.val / 1000000000, (n.val % 1000000000).toNat, by omega⟩

@[ext]
theorem ext {s t : Instant} (hs : s.seconds = t.seconds) (hn : s.nanos = t.nanos) : s = t := by
  cases s; cases t; cases hs; cases hn; rfl

theorem sinceEpoch_ofNanos (n : Integer64) : (ofNanos n).sinceEpoch = n.val := by
  simp only [sinceEpoch, ofNanos]
  omega

/-- Both parts of an instant, for a message. -/
def diagnostic (t : Instant) : String :=
  "SystemTime \x7b tv_sec: " ++ toString t.seconds ++ ", tv_nsec: " ++ toString t.nanos ++ " \x7d"

end Instant

end RecordMapper
