/-!
# The dragon

The picture that the built-in `dragon` draws, line by line.
-/

set_option autoImplicit false

namespace PipeShell.Dragon

/-- The lines of the picture. -/
def lines : List String := [
  "                         __====-_  _-====__",
  "                   _--^^^#####//      \\\\#####^^^--_",
  "                _-^##########// (    ) \\\\##########^-_",
  "               -############//  |\\^^/|  \\\\############-",
  "             _/############//   (@::@)   \\\\############\\_",
  "            /#############((     \\\\//     ))#############\\",
  "           -###############\\\\    (oo)    //###############-",
  "          -#################\\\\  / VV \\  //#################-",
  "         -###################\\\\/      \\//###################-",
  "        _#/|##########/\\######(   /\\   )######/\\##########|\\#_",
  "        |/ |#/\\#/\\#/\\/  \\#/\\##\\  |  |  /##/\\#/  \\/\\#/\\#/\\#| \\|",
  "        `  |/  V  V  `   V  \\#\\| |  | |/#/  V   '  V  V  \\|  '",
  "           `   `  `      `   / | |  | | \\   '      '  '   '",
  "                            (  | |  | |  )",
  "                           __\\ | |  | | /__",
  "                          (vvv(VVV)(VVV)vvv)"]

/-- The picture, each line ended by a newline. -/
def picture : List Char := lines.flatMap fun line => line.toList ++ ['\n']

end PipeShell.Dragon
