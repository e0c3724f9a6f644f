import Fairweather.Number.Layout

/-!
# Coordinates

A point on the earth in decimal degrees. Two points are near when they are within a tolerance of
each other on both axes; degrees do not wrap around.
-/

namespace Fairweather

/-- A point on the earth in decimal degrees. -/
structure Coordinates where
  latitude : Binary64
  longitude : Binary64
deriving DecidableEq

namespace Coordinates

/-- The two points compare as equal on both axes. -/
def equals (a b : Coordinates) : Bool :=
  a.latitude.equals b.latitude && a.longitude.equals b.longitude

/-- The two points are within `tolerance` degrees of each other on both axes. -/
def near (a b : Coordinates) (tolerance : Binary64) : Bool :=
  (a.latitude.distance b.latitude).le tolerance &&
    (a.longitude.distance b.longitude).le tolerance

/-- The point as messages show it. -/
def text (point : Coordinates) : String :=
  "(" ++ point.latitude.plain ++ ", " ++ point.longitude.plain ++ ")"

end Coordinates

end Fairweather
