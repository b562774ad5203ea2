import TopUpPromo.Console.Configuration
import TopUpPromo.Log

/-!
# Log entries on the console

Log output is answered as a list of entries, standard output first: an entry written as JSON
shows the object (without its time and caller), and a console line shows its level, logger
name (when it has one), message and fields (when there are any).

The `logger` request builds the logger of a configuration (or of none) and writes three probes:
a debug entry with `n = 1`, an info entry with `k = "v"` and a bare warning.
-/

namespace TopUpPromo
namespace Console

def entryJson (e : LogEntry) : Json :=
  if e.production then
    let named := if e.logger.isEmpty then [] else [("logger", Json.str e.logger)]
    .obj [("stream", .str "stdout"),
      ("json", .obj ([("severity", .str e.level.name)] ++ named ++ [("msg", .str e.message)] ++
        e.fields))]
  else
    let named := if e.logger.isEmpty then [] else [("logger", Json.str e.logger)]
    let fields := if e.fields.isEmpty then [] else [("fields", Json.obj e.fields)]
    .obj ([("stream", .str "stderr"), ("level", .str e.level.name)] ++ named ++
      [("msg", .str e.message)] ++ fields)

def entriesJson (es : List LogEntry) : Json :=
  .arr ((es.filter (·.production) ++ es.filter (!·.production)).map entryJson)

def loggerAnswer (j : Json) : Decode Json := do
  let nilConfig ← fieldOr j "nil_config" boolOf false
  let cfg : Except String (Option Config) ←
    if nilConfig then pure (.ok none)
    else do
      let vars ← envOf j
      pure ((Config.load (envLookup vars)).map some)
  match cfg with
  | .error e => pure (.obj [("error", .str "config"), ("message", .str e)])
  | .ok c =>
    let l := Logger.ofConfig c
    let out := l.log .debug "oracle probe" [("n", .ofInt 1)] ++
      l.log .info "oracle probe" [("k", .str "v")] ++ l.log .warn "oracle probe" []
    pure (.obj [("enabled", .obj [("debug", .bool (l.enabled .debug)),
        ("info", .bool (l.enabled .info)), ("warn", .bool (l.enabled .warn)),
        ("error", .bool (l.enabled .error))]),
      ("global_replaced", .bool true), ("output", entriesJson out)])

end Console
end TopUpPromo
