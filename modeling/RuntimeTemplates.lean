import RuntimeTemplates.Lib.Trace
import RuntimeTemplates.Lib.Attempts
import RuntimeTemplates.Lib.Outcomes
import RuntimeTemplates.Lib.Forecast
import RuntimeTemplates.Lib.Bytes
import RuntimeTemplates.Lib.Bounded
import RuntimeTemplates.Lib.Rounding
import RuntimeTemplates.Lib.Custody
import RuntimeTemplates.Lib.Descent
import RuntimeTemplates.Lib.Segments
import RuntimeTemplates.Lib.Dispatch
import RuntimeTemplates.Lib.Serde
import RuntimeTemplates.Lib.Scale
import RuntimeTemplates.Xcm.Location
import RuntimeTemplates.Xcm.Builder
import RuntimeTemplates.Xcm.Convert
import RuntimeTemplates.Template
import RuntimeTemplates.Reserve.Providers
import RuntimeTemplates.Reserve.Trust
import RuntimeTemplates.Reserve.Solvency
import RuntimeTemplates.Reserve.Spelling
import RuntimeTemplates.Reserve.FeeFilter
import RuntimeTemplates.Transactors
import RuntimeTemplates.Origins
import RuntimeTemplates.Fees
import RuntimeTemplates.Credits
import RuntimeTemplates.WeightToFee
import RuntimeTemplates.Runtime.Call
import RuntimeTemplates.Runtime.Carried
import RuntimeTemplates.Runtime.Proxy
import RuntimeTemplates.Runtime.Fuzzer
import RuntimeTemplates.Runtime.Origin
import RuntimeTemplates.Runtime.LocalOrigin
import RuntimeTemplates.Author
import RuntimeTemplates.Converter
import RuntimeTemplates.Runtime.Plain
import RuntimeTemplates.Runtime.Dispatch
import RuntimeTemplates.Runtime.Funds
import RuntimeTemplates.Runtime.Reach
import RuntimeTemplates.Runtime.NonTransfer
import RuntimeTemplates.Runtime.Handover
import RuntimeTemplates.Runtime.Privilege
import RuntimeTemplates.Runtime.Authority
import RuntimeTemplates.Runtime.FuzzRun
import RuntimeTemplates.Governance.Checks
import RuntimeTemplates.Governance.Tracks
import RuntimeTemplates.Governance.Powers
import RuntimeTemplates.Assets.Pallet
import RuntimeTemplates.Assets.Registrar
import RuntimeTemplates.Assets.Creation
import RuntimeTemplates.Assets.Backing
import RuntimeTemplates.Assets.Registration
import RuntimeTemplates.Assets.Lifecycle
import RuntimeTemplates.Assets.Address
import RuntimeTemplates.Contracts.Abi
import RuntimeTemplates.Contracts.Artifact
import RuntimeTemplates.Contracts.Bytecode
import RuntimeTemplates.Contracts.Parse
import RuntimeTemplates.Contracts.Solidity
import RuntimeTemplates.Genesis.Accounts
import RuntimeTemplates.Genesis.Patch
import RuntimeTemplates.Genesis.Precompiles
import RuntimeTemplates.Node.Cli
