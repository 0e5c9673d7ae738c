import RowIngest.Mapping.Placement
/-!
Documents that share their containers with the row. Where one path leads through the place of
another, a value can be placed inside of a container that the row holds. The row holds it still,
so that the change shows wherever that container has been put or will be.
-/
namespace RowIngest.Shared

/-- A value in the making. Some of its containers are held by the row. -/
inductive Node where
  /-- Neither an array nor an object. -/
  | plain (v : Value)
  | list (items : List Node)
  | obj (fields : List (String × Node))
  /-- The container that the row holds for a field. -/
  | held (field : String)

/-- A document, and the containers that the row holds, as they are by now. -/
structure Workshop where
  document : Node
  held : List (String × Node)

mutual

def Node.ofValue : Value → Node
  | .list items => .list (nodesOf items)
  | .obj fields => .obj (namedNodesOf fields)
  | v => .plain v

def nodesOf : List Value → List Node
  | [] => []
  | v :: rest => Node.ofValue v :: nodesOf rest

def namedNodesOf : List (String × Value) → List (String × Node)
  | [] => []
  | (name, v) :: rest => (name, Node.ofValue v) :: namedNodesOf rest

end

namespace Node

def null : Node := .plain .null

/-- What a container has at a segment, null where it has nothing. -/
def slot (container : Node) (s : Segment) : Node :=
  match s, container with
  | .key name, .obj fields => (Fields.get? fields name).getD null
  | .index position, .list items => items[position]?.getD null
  | _, _ => null

/-- Puts a node into a container; `shown` is the path as messages give it. -/
def put (room : Room) (shown : String) (container : Node) (s : Segment) (n : Node) :
    Except Document.Obstacle Node :=
  match s, container with
  | .key name, .obj fields => .ok (.obj (Fields.set fields name n))
  | .key name, _ => .error (.inTheWay (.keyInArray name shown))
  | .index position, .list items =>
    (Document.checkRoom room items.length position).map fun _ =>
      .list (Document.setAt null items position n)
  | .index position, _ => .error (.inTheWay (.positionInObject position shown))

/-- The node at a path, null where there is nothing. -/
def nodeAt (n : Node) : Path → Node
  | [] => n
  | s :: rest => (n.slot s).nodeAt rest

/-- Changes the node at a path, which has to be there. -/
def changeAt (room : Room) (change : Node → Except Document.Obstacle Node) (shown : String)
    (n : Node) : Path → Except Document.Obstacle Node
  | [] => change n
  | s :: rest => do put room shown n s (← changeAt room change shown (n.slot s) rest)

end Node

/-- Where a container is: the holder, a field of the row or the document itself, and the path
to it from there. -/
structure Place where
  holder : Option String
  path : Path

namespace Workshop

/-- The node of a holder. -/
def holding (w : Workshop) : Option String → Node
  | none => w.document
  | some field => (Fields.get? w.held field).getD .null

def nodeAt (w : Workshop) (p : Place) : Node := (w.holding p.holder).nodeAt p.path

/-- Puts a node into the container at a place. -/
def putAt (room : Room) (w : Workshop) (shown : String) (p : Place) (s : Segment) (n : Node) :
    Except Document.Obstacle Workshop := do
  let changed ← Node.changeAt room (Node.put room shown · s n) shown (w.holding p.holder) p.path
  match p.holder with
  | none => return { w with document := changed }
  | some field => return { w with held := Fields.set w.held field changed }

/-- Goes from the container at a place to the one at a segment, which is made if there is none
and into which `next` can be put. -/
def enter (room : Room) (w : Workshop) (shown : String) (p : Place) (s next : Segment) :
    Except Document.Obstacle (Workshop × Place) := do
  let below : Place := { p with path := p.path ++ [s] }
  let found := (w.nodeAt p).slot s
  let inside : Place :=
    match found with
    | .held field => ⟨some field, []⟩
    | _ => below
  match found, w.nodeAt inside, next with
  | .plain .null, _, _ =>
    return (← w.putAt room shown p s (Node.ofValue (Document.emptyFor next)), below)
  | _, .obj _, .key _ | _, .list _, .index _ => return (w, inside)
  | _, _, _ => throw (Document.wrongContainer shown next)

/-- Places a node from the container at a place on. -/
def place (room : Room) (w : Workshop) (shown : String) (n : Node) (p : Place) (s : Segment)
    (rest : Path) : Except Document.Obstacle Workshop :=
  match rest with
  | [] => w.putAt room shown p s n
  | next :: rest => do
    let (w, inside) ← w.enter room shown p s next
    w.place room shown n inside next rest

/-- Places the value that a row has for a field, if it is not null. A container of the row is
put into the document as the row holds it. -/
def addField (room : Room) (row : Row) (w : Workshop) (f : FieldMapping) :
    Except Fault Workshop := do
  let v ← f.value row
  if v.isNull then return w
  else
    let n := if (row.value f.field).isContainer then Node.held f.field else Node.ofValue v
    match f.path with
    | [] => throw Document.placeless
    | s :: rest =>
      (w.place room f.display n ⟨none, []⟩ s rest).mapError (Document.Obstacle.fault f.field)

/-- The containers that a row holds. -/
def begin (root : Value) (row : Row) : Workshop where
  document := Node.ofValue root
  held := (row.filter fun (_, v) => v.isContainer).map fun (name, v) => (name, Node.ofValue v)

mutual

/-- The value of a node. Containers of the row lie in one another at most as deep as there are
any; one that lies within itself has no value. -/
def value (w : Workshop) : Nat → Node → Value
  | _, .plain v => v
  | depth, .list items => .list (values w depth items)
  | depth, .obj fields => .obj (namedValues w depth fields)
  | 0, .held _ => .null
  | depth + 1, .held field => value w depth (w.holding (some field))
termination_by depth n => (depth, sizeOf n)

def values (w : Workshop) : Nat → List Node → List Value
  | _, [] => []
  | depth, n :: rest => value w depth n :: values w depth rest
termination_by depth ns => (depth, sizeOf ns)

def namedValues (w : Workshop) : Nat → List (String × Node) → List (String × Value)
  | _, [] => []
  | depth, (name, n) :: rest => (name, value w depth n) :: namedValues w depth rest
termination_by depth fs => (depth, sizeOf fs)

end

end Workshop

/-- The document of a row, every field placed in the order of the mapping. -/
def document (room : Room) (fields : List FieldMapping) (root : Value) (row : Row) :
    Except Fault Value := do
  let w ← fields.foldlM (Workshop.addField room row) (Workshop.begin root row)
  return w.value w.held.length w.document

end RowIngest.Shared
