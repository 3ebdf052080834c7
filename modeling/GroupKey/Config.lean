import GroupKey.Environment
import GroupKey.Failure

/-!
What a conversion is asked to do: the hexadecimal text of the key and the file to write.

The text comes from the variable `GROUP_ID`. It has to be set and its value has to be text; whether
the text is hexadecimal is found out when the key is needed.
-/

namespace GroupKey

def keyVariable : String := "GROUP_ID"

structure Config where
  groupId : String
  output : Path
  deriving Repr

/-- The bytes that the value of a named variable stands for. -/
def readKey (name value : String) : Except InputError Bytes :=
  (Hex.decode value).mapError (.notHex name)

def confirmationLine (value : String) : String := keyVariable ++ "=" ++ value

namespace Config

/-- The file that a key goes to unless another is named, in the working directory. -/
def defaultOutput : Path := .ofString "key.der"

def ofKey (groupId : String) : Config := ⟨groupId, defaultOutput⟩

def withOutput (config : Config) (output : Path) : Config := ⟨config.groupId, output⟩

/-- To convert the key that a variable's value spells, if it is set and spells any text. -/
def ofValue? : Option Bytes → Except InputError Config
  | none => .error (.missing keyVariable)
  | some raw =>
    match Utf8.decode? raw with
    | none => .error (.notUnicode keyVariable)
    | some groupId => .ok (ofKey groupId)

/-- To convert the key found by a lookup, which is asked for the one variable that matters. -/
def ofLookup {m : Type → Type} [Monad m] (lookup : String → m (Option Bytes)) :
    m (Except InputError Config) :=
  return ofValue? (← lookup keyVariable)

def ofEnvironment (env : Environment) : Except InputError Config :=
  ofValue? (env.value? keyVariable)

def key (config : Config) : Except InputError Bytes := readKey keyVariable config.groupId

/-- Two configurations are equal when they ask for the same text in equal paths. -/
instance : BEq Config where
  beq a b := a.groupId == b.groupId && a.output == b.output

def spelled (config : Config) : String :=
  String.ofList (Spelled.record "Config"
    [Spelled.part "group_id" (Quoted.text config.groupId),
     Spelled.part "output" config.output.quoted])

end Config

end GroupKey
