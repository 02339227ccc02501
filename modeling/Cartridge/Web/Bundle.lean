import Cartridge.Build.Action
import Cartridge.Compile.Template
import Cartridge.Web.Page
import Cartridge.Web.Player

/-!
# Bundles for browsers

A bundle is the web player of the template with the image, and with its page and script filled in.
-/

namespace Cartridge.Web

open Cartridge.Compile (Template)
open Cartridge.Files (FilePath)

/-- Writes the files of a folder of the template; answers their number. -/
def extractFiles (template : Template) (folder : String) (target : FilePath) : Build.Action Nat :=
  ExceptT.mk fun world =>
    match template.extract folder world.tree target with
    | .ok (count, tree) => (.ok count, { world with tree := tree })
    | .error e => (.error (.ofCompile e), world)

/-- Writes a text file. -/
def writeText (path : FilePath) (text : String) : Build.Action Unit :=
  Build.Action.write path text.toUTF8

/-- Writes the web page that plays an image. -/
def writeBundle (template : Template) (project : Project) (image : FilePath) (imageName : String)
    (target : FilePath) : Build.Action Unit := do
  let _ ← extractFiles template "web" target
  let _ ← Build.Action.copyFile image ((target.join "rom").join imageName)
  let page := target.join "index.html"
  writeText page (fillPage (← Build.Action.readText page) project)
  let script := (target.join "js").join "script.js"
  writeText script
    (fillScript (← Build.Action.readText script) imageName project.settings.colorCorrection)

end Cartridge.Web
