import AddonPackager.Catalog.Format
import AddonPackager.Dict
import AddonPackager.Json.Relaxed
import AddonPackager.Text.Trim

/-! Message bundles: relaxed JSON objects from keys to messages, and the catalog text that a
bundle becomes.
-/

namespace AddonPackager

/-- Messages by key. -/
structure MessageBundle where
  messages : Dict String

namespace MessageBundle

/-- The message of an entry: the only `message` member of an object, or the first item of an
array. The other members of an object must be readable.
-/
def messageOf? : Json → Option String
  | .object members =>
      let (messages, others) := members.partition (·.1 == "message")
      match messages with
      | [(_, .string message)] =>
          if others.all (Json.Relaxed.isReadable ·.2) then some message else none
      | _ => none
  | .array (.string message :: _) => some message
  | _ => none

/-- The messages of a value. Of several entries of a key the last one counts, but all have to
hold a message.
-/
def ofJson? : Json → Option MessageBundle
  | .object members =>
      (members.mapM fun member => (messageOf? member.2).map ((member.1, ·))).map
        fun messages => ⟨Dict.ofList messages⟩
  | _ => none

def parse? (text : String) : Option MessageBundle :=
  (Json.Relaxed.parse? text.toList).bind ofJson?

/-- Which keys of a bundle are taken. -/
inductive KeyFilter where
  | all
  | only (keys : List String)
  deriving DecidableEq, Repr

/-- Reads a choice of keys: words, where no word or a star takes all keys. -/
def KeyFilter.parse (value : String) : KeyFilter :=
  match Text.wordsOf value with
  | [] => .all
  | keys => if keys.contains "*" then .all else .only keys

def KeyFilter.allows : KeyFilter → String → Bool
  | .all, _ => true
  | .only keys, key => keys.contains key

/-- The catalog text of the chosen messages in key order, in the format of the target file. -/
def toCatalog (bundle : MessageBundle) (filter : KeyFilter) (target : String) : String :=
  String.join ((bundle.messages.toList.filter (filter.allows ·.1)).map fun (key, message) =>
    CatalogFormat.entryFor target key message)

end MessageBundle

end AddonPackager
