import InlineIps.Ml.PythonValues

/-!
# The autoencoder

The model of the server: it presses its input through a bottleneck of eight values and restores it.
What is computed in a layer is left to torch, and the parameters are known by the names of the state
dict.

* `Autoencoder.stateDict_features`: the state dict tells for how many features a model was made.
* `Autoencoder.stateDict_injective`: it tells the model.
-/

namespace InlineIps

/-- A tensor of floats with its shape. -/
abbrev Tensor (shape : List Nat) := Vector Float32 shape.prod

/-- A state dict: the parameters under their names, in the order of the modules. -/
abbrev StateDict := List (String × (Σ shape, Tensor shape))

/-- The parameters of an `nn.Linear`. -/
structure Linear (inputs outputs : Nat) where
  weight : Tensor [outputs, inputs]
  bias : Tensor [outputs]

/-- What torch computes of a row. Both may raise. -/
structure Layers where
  linear : {inputs outputs : Nat} → Linear inputs outputs → Vector Float32 inputs →
    Except String (Vector Float32 outputs)
  relu : {size : Nat} → Vector Float32 size → Except String (Vector Float32 size)

/-- `Autoencoder(n_features)`, by its parameters. -/
structure Autoencoder (nFeatures : Nat) where
  encoder0 : Linear nFeatures 16
  encoder2 : Linear 16 8
  decoder0 : Linear 8 16
  decoder2 : Linear 16 nFeatures

def Linear.parameters {inputs outputs : Nat} (name : String) (layer : Linear inputs outputs) :
    StateDict :=
  [(name ++ ".weight", ⟨_, layer.weight⟩), (name ++ ".bias", ⟨_, layer.bias⟩)]

namespace Autoencoder

variable {n m : Nat}

/-- `state_dict`. -/
def stateDict (model : Autoencoder n) : StateDict :=
  model.encoder0.parameters "encoder.0" ++ model.encoder2.parameters "encoder.2" ++
    model.decoder0.parameters "decoder.0" ++ model.decoder2.parameters "decoder.2"

/-- `forward`, for one row. -/
def forward (layers : Layers) (model : Autoencoder n) (x : Vector Float32 n) :
    Except String (Vector Float32 n) := do
  let hidden ← layers.linear model.encoder0 x
  let hidden ← layers.relu hidden
  let bottleneck ← layers.linear model.encoder2 hidden
  let bottleneck ← layers.relu bottleneck
  let hidden ← layers.linear model.decoder0 bottleneck
  let hidden ← layers.relu hidden
  layers.linear model.decoder2 hidden

/-- The shape of the first weight holds the number of features. -/
theorem stateDict_features {model : Autoencoder n} {model' : Autoencoder m}
    (h : model.stateDict = model'.stateDict) : n = m := by
  have hfirst : [16, n] = [16, m] :=
    congrArg (fun state => ((state.head?.map fun entry => entry.2.1).getD [])) h
  simpa using hfirst

theorem stateDict_injective {model model' : Autoencoder n}
    (h : model.stateDict = model'.stateDict) : model = model' := by
  obtain ⟨⟨_, _⟩, ⟨_, _⟩, ⟨_, _⟩, ⟨_, _⟩⟩ := model
  obtain ⟨⟨_, _⟩, ⟨_, _⟩, ⟨_, _⟩, ⟨_, _⟩⟩ := model'
  simpa [stateDict, Linear.parameters, and_assoc] using h

end Autoencoder

end InlineIps
