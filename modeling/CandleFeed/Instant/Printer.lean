import CandleFeed.Instant.Basic
import CandleFeed.Text.Integer

namespace CandleFeed.Instant

def renderYear (year : Int) : List Char :=
  if 0 ≤ year ∧ year ≤ 9999 then Text.paddedDigits 4 year.natAbs
  else (if year < 0 then '-' else '+') :: Text.paddedDigits 4 year.natAbs

def renderFraction (nanos : Nat) : List Char :=
  if nanos = 0 then []
  else if nanos % 1_000_000 = 0 then '.' :: Text.paddedDigits 3 (nanos / 1_000_000)
  else if nanos % 1000 = 0 then '.' :: Text.paddedDigits 6 (nanos / 1000)
  else '.' :: Text.paddedDigits 9 nanos

def renderPair (n : Int) : List Char :=
  Text.paddedDigits 2 n.natAbs

def render (t : Instant) : List Char :=
  let date := t.date
  let ofDay := t.seconds % secondsPerDay
  let second := ofDay % 60 + (t.nanos / 1_000_000_000 : Nat)
  renderYear date.year ++ '-' :: renderPair date.month ++ '-' :: renderPair date.day ++
    'T' :: renderPair (ofDay / 3600) ++ ':' :: renderPair (ofDay / 60 % 60) ++
    ':' :: renderPair second ++ renderFraction (t.nanos % 1_000_000_000) ++ ['Z']

end CandleFeed.Instant
