/-!
# Plane geometry

Points, sizes, rectangles and displacements with floating-point coordinates. They are values to put
into samples; the only arithmetic is the far corner of a rectangle. Two values are equal when their
coordinates are, so a value that holds no number differs from itself and minus zero equals zero.
-/

namespace Specimen.Data

/-- A place in the plane. -/
structure Point where
  x : Float
  y : Float
  deriving BEq, Repr

/-- A width and a height. -/
structure Size where
  width : Float
  height : Float
  deriving BEq, Repr

/-- A rectangle, given by one corner and its extent. -/
structure Rect where
  origin : Point
  size : Size
  deriving BEq, Repr

/-- A displacement in the plane. -/
structure Displacement where
  dx : Float
  dy : Float
  deriving BEq, Repr

/-- The origin of the plane. -/
def Point.zero : Point := ⟨0.0, 0.0⟩

/-- No extent. -/
def Size.zero : Size := ⟨0.0, 0.0⟩

namespace Rect

/-- The empty rectangle at the origin of the plane. -/
def zero : Rect := ⟨Point.zero, Size.zero⟩

/-- A rectangle from the coordinates of its corner and its extent. -/
def ofSides (x y width height : Float) : Rect := ⟨⟨x, y⟩, ⟨width, height⟩⟩

/-- The horizontal coordinate of the far corner. -/
def maxX (rect : Rect) : Float := rect.origin.x + rect.size.width

/-- The vertical coordinate of the far corner. -/
def maxY (rect : Rect) : Float := rect.origin.y + rect.size.height

end Rect

/-- No displacement. -/
def Displacement.zero : Displacement := ⟨0.0, 0.0⟩

end Specimen.Data
