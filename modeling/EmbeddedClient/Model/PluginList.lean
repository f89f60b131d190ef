import EmbeddedClient.Model.Cache
import Mathlib.Logic.Function.Basic

/-!
# The plugin list in memory

`sky_plugin_add` and the dispatch loops of `plugin.c` on the tables as they lie in memory, linked by
their `next` pointers, and `sky_register_plugins` of `register.c`. A loop has fuel and returns
`none` when it has used it up.
-/

namespace EmbeddedClient

/-- The `next` and `magic` fields of a `Sky_plugin_table_t`; its entry points never change. -/
structure PluginTable (α : Type*) where
  next : Option α
  magic : UInt32
  deriving DecidableEq, Repr

/-- The tables by address, and the root of the list. `none` is the null pointer. -/
structure PluginMemory (α : Type*) where
  root : Option α
  table : α → PluginTable α

namespace PluginMemory

variable {α : Type*} [DecidableEq α]

/-- The assignment `p->next = next`. -/
def setNext (m : PluginMemory α) (p : α) (next : Option α) : PluginMemory α :=
  { m with table := Function.update m.table p { m.table p with next := next } }

end PluginMemory

/-- The arguments of `sky_plugin_add`: whether the root is passed or `NULL`, and the table. -/
structure PluginAdd (α : Type*) where
  root : Bool
  table : Option α
  deriving DecidableEq, Repr

section Add

variable {α : Type*} [DecidableEq α]

/-- The loop of `sky_plugin_add` from the table `p` on. -/
def skyPluginAddLoop (m : PluginMemory α) (table : α) :
    ℕ → Option α → Option (SkyStatus × PluginMemory α)
  | 0, _ => none
  | _ + 1, none => some (.error, m)
  | fuel + 1, some p =>
    if (m.table p).magic ≠ SKY_MAGIC then some (.error, m)
    else if p = table then some (.success, m)
    else if (m.table p).next = none then
      some (.success, (m.setNext p (some table)).setNext table none)
    else skyPluginAddLoop m table fuel (m.table p).next

def skyPluginAdd (fuel : ℕ) (m : PluginMemory α) (args : PluginAdd α) :
    Option (SkyStatus × PluginMemory α) :=
  match args.table with
  | none => some (.error, m)
  | some table =>
    if (m.table table).magic ≠ SKY_MAGIC ∨ args.root = false then some (.error, m)
    else if m.root = none then some (.success, { m with root := some table }.setNext table none)
    else skyPluginAddLoop m table fuel m.root

def PluginMemory.addAll (fuel : ℕ) (m : PluginMemory α) :
    List (PluginAdd α) → Option (List SkyStatus × PluginMemory α)
  | [] => some ([], m)
  | args :: calls =>
    (skyPluginAdd fuel m args).bind fun first =>
      (first.2.addAll fuel calls).map fun rest => (first.1 :: rest.1, rest.2)

/-- `sky_register_plugins` with the addresses of the two tables. -/
def skyRegisterPluginsAt (fuel : ℕ) (m : PluginMemory α) (address : SkyPluginTable → α) :
    Option (SkyStatus × PluginMemory α) :=
  (skyPluginAdd fuel m ⟨true, some (address .apPluginBasic)⟩).bind fun first =>
    if first.1 = .success then skyPluginAdd fuel first.2 ⟨true, some (address .cellPluginBasic)⟩
    else some (.error, first.2)

end Add

/-- The call of an entry point that may be `NULL`. It returns a status and changes the state. -/
def callEntry {σ : Type*} (op : Option (σ → SkyStatus × σ)) (s : σ) : SkyStatus × σ :=
  match op with
  | none => (.error, s)
  | some op => op s

/-- A dispatch loop from the table `p` on. It ends with the first success. -/
def dispatch {α σ : Type*} (entry : α → Option (σ → SkyStatus × σ)) (m : PluginMemory α) :
    ℕ → Option α → σ → Option (SkyStatus × σ)
  | 0, _, _ => none
  | _ + 1, none, s => some (.error, s)
  | fuel + 1, some p, s =>
    let result := callEntry (entry p) s
    if result.1 ≠ .error then some result else dispatch entry m fuel (m.table p).next result.2

end EmbeddedClient
