import SqliteBridge.Binding.Config
import SqliteBridge.Binding.PathText
import SqliteBridge.Json.Composite

/-! A toolkit of this library's own: the JSON format of configurations, paths as `PathText`
reads them, and source with one blank between tokens. -/
namespace SqliteBridge.Binding

namespace Config

private def textField (name : String) (get : Config → String) (set : Config → String → Config) :
    Json.Field Config :=
  ⟨name, false, fun config => Json.writeString (get config),
    fun config => set config <$> Json.string⟩

def format : Json.Record Config where
  name := "GeneratorConfig"
  initial := standard
  fields := [
    textField "jni_class" className fun config s => { config with className := s },
    textField "method_prefix" methodStart fun config s => { config with methodStart := s },
    textField "api_path" operationsPath fun config s => { config with operationsPath := s },
    textField "runtime_path" runtimePath fun config s => { config with runtimePath := s },
    ⟨"copyright", false, fun config => Json.writeOption Json.writeString config.header?,
      fun config => (fun header => { config with header? := header }) <$>
        Json.optional Json.string⟩]
  defaults := true
  strict := true

end Config

def Toolkit.plain : Toolkit where
  readPath := PathText.read
  readConfig := Json.parse Config.format.read
  write := Source.text

end SqliteBridge.Binding
