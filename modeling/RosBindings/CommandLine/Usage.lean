import RosBindings.Text.Basic

/-!
# Help on the command line

What is printed when help is asked for, and above every complaint about the arguments.
-/

namespace RosBindings.CommandLine

/-- The name of the program. -/
def program : Text := "msgmonster"

/-- How the arguments are written. -/
def usage : Text :=
  "usage: msgmonster [-h] [--msg-folder MSG_FOLDER]\n" ++
  "                  [--runtime-package RUNTIME_PACKAGE] [--keep-going] [-v]\n" ++
  "                  \x7bros1,ros2\x7d java_package input output_dir"

/-- What the arguments mean. -/
def help : Text :=
  usage ++
  "\n\nGenerate Java classes from ROS message definitions\n\n" ++
  "positional arguments:\n" ++
  "  \x7bros1,ros2\x7d           ROS version the definitions belong to\n" ++
  "  java_package          Java package name for generated code\n" ++
  "  input                 ROS package name (e.g. geometry_msgs) or a single\n" ++
  "                        message (e.g. geometry_msgs/Point)\n" ++
  "  output_dir            Folder where generated .java files are written\n\n" ++
  "options:\n" ++
  "  -h, --help            show this help message and exit\n" ++
  "  --msg-folder MSG_FOLDER\n" ++
  "                        Read .msg files from this folder instead of the\n" ++
  "                        installed ROS tools\n" ++
  "  --runtime-package RUNTIME_PACKAGE\n" ++
  "                        Java package of the message runtime (default:\n" ++
  "                        id.jrosmessages)\n" ++
  "  --keep-going          Continue with other messages when one of them fails\n" ++
  "  -v, --verbose         Enable debug logging"

end RosBindings.CommandLine
