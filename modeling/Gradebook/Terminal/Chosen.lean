import Gradebook.Terminal.Session

/-!
# Requests about preferences

Setting, showing and resetting what is kept for later runs.
-/

namespace Gradebook.Terminal

variable {κ : Type}

def knownNames : List String := [dataDirectoryName, selectionName]

def preferenceJson (name text : String) : Json.Value :=
  .object [("key", .string name), ("value", .string text)]

def setPreference (ctx : Context) (tree : FileTree) (clock : κ) (name text : String) : Reply κ :=
  let known := ", ".intercalate knownNames
  let warning : List Print :=
    if knownNames.contains name then [] else [.warning s!"Unknown key '{name}' (known: {known})"]
  match Preferences.store tree ctx.home name text with
  | (some p, left) => ⟨warning, left, clock, some (.preferences p)⟩
  | (none, kept) =>
    let item := match ctx.format with
      | .table => .success s!"{name} = {text}"
      | format => format.show (preferenceJson name text)
    ⟨warning ++ [item], kept, clock, none⟩

/-- What the preferences of a context answer; they stay as they are. -/
def readPreferences (ctx : Context) (tree : FileTree) (clock : κ)
    (items : Preferences → List Print) : Reply κ :=
  match Preferences.load tree ctx.home with
  | .error p => ⟨[], tree, clock, some (.preferences p)⟩
  | .ok p => ⟨items p, tree, clock, none⟩

def getPreference (ctx : Context) (tree : FileTree) (clock : κ) (name : String) : Reply κ :=
  readPreferences ctx tree clock fun p =>
    match p.get? name, ctx.format with
    | some text, .table => [.line text]
    | some text, format => [format.show (preferenceJson name text)]
    | none, _ => [.error s!"Key '{name}' not found"]

def showPreferences (ctx : Context) (tree : FileTree) (clock : κ) : Reply κ :=
  readPreferences ctx tree clock fun p =>
    if p.entries.isEmpty then [.info "No configuration values set."]
    else
      match ctx.format with
      | .table => .heading "Configuration" :: p.entries.map fun e => .detail e.1 e.2
      | format => [format.show (.object (p.entries.map fun e => (e.1, .string e.2)))]

/-- Takes all preferences away; only by force. -/
def resetPreferences (ctx : Context) (tree : FileTree) (clock : κ) (force : Bool) : Reply κ :=
  if !force then
    ⟨[.info "This will reset all CLI configuration. Use --force to confirm."], tree, clock, none⟩
  else
    match Preferences.reset tree ctx.home with
    | .error p => ⟨[], tree, clock, some (.preferences p)⟩
    | .ok kept => ⟨[.success "Configuration reset to defaults"], kept, clock, none⟩

end Gradebook.Terminal
