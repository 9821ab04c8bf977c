/-! # Keys

A key in an area of the session cache is kept under the name of both, parted by a colon. Areas may
nest in the same way, so the keys of an area are those whose whole name begins with its name and a
colon.
-/

namespace BearerAuth

/-- What separates an area from what lies in it. -/
def keySeparator : String := ":"

/-- The whole name of a key in an area. -/
def cacheKey (area key : String) : String := area ++ keySeparator ++ key

/-- What the whole names of all keys in an area begin with. -/
def areaStart (area : String) : String := area ++ keySeparator

/-- The key lies in the area. -/
def liesIn (area wholeKey : String) : Bool := (areaStart area).toList.isPrefixOf wholeKey.toList

end BearerAuth
