import RosBindings.Text.Quoted

/-!
# Dialects

The two versions of ROS spell identifiers differently: `package/Name` in the first,
`package/msg/Name` in the second. Only the first one gives messages a checksum.
-/

namespace RosBindings

/-- The version of ROS that definitions belong to. -/
inductive Dialect
  | ros1
  | ros2
  deriving DecidableEq, Repr

namespace Dialect

/-- All dialects. -/
def all : List Dialect := [.ros1, .ros2]

/-- How a dialect is written. -/
def label : Dialect → Text
  | .ros1 => "ros1"
  | .ros2 => "ros2"

/-- The dialect of a label. -/
def ofLabel? (t : Text) : Option Dialect := all.find? fun d => d.label = t

/-- What is said about a text that is no dialect. -/
def unknownMessage (t : Text) : Text := Text.quoted t ++ " is not a valid Dialect"

/-- Whether messages of the dialect have a checksum. -/
def hasChecksum : Dialect → Bool
  | .ros1 => true
  | .ros2 => false

end Dialect

end RosBindings
