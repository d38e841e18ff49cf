import RgbWallet.Strict
import RgbWallet.Contract
import RgbWallet.Stock
import RgbWallet.Stockpile
import RgbWallet.Consignment
import RgbWallet.Encoding
import RgbWallet.Alignment
import RgbWallet.Mound
import RgbWallet.MoundRegistry
import RgbWallet.MoundFrame
import RgbWallet.History
import RgbWallet.Serving
import RgbWallet.Framing
import RgbWallet.Transfer
import RgbWallet.Interface.Operation
import RgbWallet.Interface.Contract
import RgbWallet.Interface.Transition
import RgbWallet.Interface.Completion
