import ApiSurface.Tool.Environment
import ApiSurface.Tool.Expr
import ApiSurface.Tool.Files
import ApiSurface.Tool.Grep
import ApiSurface.Tool.Lines
import ApiSurface.Tool.Plain
import ApiSurface.Tool.Sed

namespace ApiSurface

namespace Tool

def table : List (Text × Utility) :=
  [("[", bracket), ("basename", basename), ("cat", cat), ("chmod", chmod), ("cmp", cmp),
    ("cp", cp), ("cut", cut), ("dirname", dirname), ("echo", echo), ("env", env),
    ("expr", expr), ("false", failing), ("grep", grep), ("head", head), ("ls", ls),
    ("mkdir", mkdir), ("mv", mv), ("nl", nl), ("nohup", nohup), ("printenv", printenv),
    ("printf", printf), ("pwd", pwd), ("rev", rev), ("rm", rm), ("rmdir", rmdir), ("sed", sed),
    ("seq", seq), ("sleep", sleep), ("sort", sort), ("tac", tac), ("tail", tail), ("tee", tee),
    ("test", test), ("touch", touch), ("tr", tr), ("true", succeed), ("uniq", uniq), ("wc", wc),
    ("whoami", whoami), ("xargs", xargs), ("yes", yes)].map
      fun (name, tool) => (name.toList, tool)

end Tool

end ApiSurface
