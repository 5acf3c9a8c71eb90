import SceneWorkflow.Entity

/-! Drawings of the graph of an area in the DOT language. Scenes are boxes and tiles plain nodes, both
in the colour of their status. Edges lead from scenes to their tiles and from tiles to those that follow
them; edges to unfinished work are dotted. -/

namespace SceneWorkflow

namespace Drawing

/-- A label quotes backslashes and quotation marks. -/
def escape (label : String) : List Char :=
  label.toList.flatMap fun c => if c = '\\' ∨ c = '"' then ['\\', c] else [c]

def quoted (inside : List Char) : List Char := '"' :: (inside ++ ['"'])

/-- The label of a node: its name and, on a second line, its id. -/
def label (name : String) (id : Int) : List Char :=
  quoted (escape name ++ s!"\\n(id={id})".toList)

def sceneNode (s : Scene) : List Char :=
  s!"  s{s.id} [label=".toList ++ label s.sourceId s.id ++
    s!" shape=box color={s.status.color}];\n".toList

def tileNode (t : Tile) : List Char :=
  s!"  t{t.id} [label=".toList ++ label t.sourceId t.id ++ s!" color={t.status.color}];\n".toList

/-- The edge from a scene to a tile is solid if the scene is among those drawn and is done. -/
def sceneEdge (scenes : List Scene) (t : Tile) : List Char :=
  let done := (scenes.find? fun s => s.id == t.scene).any fun s => s.status == .done
  let style := if done then "" else " style=dotted"
  s!"  s{t.scene} -> t{t.id} [color=gray{style}];\n".toList

/-- The edge from the tile before, if there is one. -/
def previousEdge (t : Tile) : List Char :=
  match t.previous with
  | none => []
  | some previous =>
    let style := if t.status = .done then "" else " [style=dotted]"
    s!"  t{previous} -> t{t.id}{style};\n".toList

def chars (aoi : String) (scenes : List Scene) (tiles : List Tile) : List Char :=
  "digraph ".toList ++ quoted (escape aoi) ++ [' ', '\x7b', '\n'] ++
    scenes.flatMap sceneNode ++
    tiles.flatMap (fun t => tileNode t ++ sceneEdge scenes t) ++
    tiles.flatMap previousEdge ++ ['\x7d', '\n']

end Drawing

def drawGraph (aoi : String) (scenes : List Scene) (tiles : List Tile) : String :=
  String.ofList (Drawing.chars aoi scenes tiles)

end SceneWorkflow
