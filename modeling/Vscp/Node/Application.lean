/-
This file says what a node needs of the application around it.
-/

import Vscp.Node.Effect

namespace Vscp

/-- An application answers for its registers and is told of what happens. One that defines nothing
reads zero and takes no writes. -/
class Application (App : Type) where
  readRegister : App → (page : UInt16) → (offset : UInt8) → UInt8 × App :=
    fun app _ _ => (0, app)
  writeRegister : App → (page : UInt16) → (offset value : UInt8) → UInt8 × App :=
    fun app page offset _ => readRegister app page offset
  notify : App → Call → App :=
    fun app _ => app

end Vscp
