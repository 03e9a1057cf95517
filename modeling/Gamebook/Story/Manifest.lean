/-
# The manifest of a story

What a story says about itself: its name and title, labels of scenes, texts to show on the way
to a scene, and its configuration.
-/
import Gamebook.Config

namespace Gamebook

/-- What a story says about itself. -/
structure Manifest where
  id : Text
  title : Text := []
  version : Text := "1.0.0"
  author : Text := []
  description : Text := []
  /-- Labels shown in front of the names of scenes. -/
  sceneLabels : Table Text := .empty
  /-- Texts shown before a scene is entered. -/
  transitionTexts : Table Text := .empty
  config : Config := {}
deriving DecidableEq, Inhabited

end Gamebook
