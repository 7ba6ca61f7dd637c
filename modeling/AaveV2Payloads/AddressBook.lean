/-
The address book: the addresses the payloads and the scripts take from outside the repository
(`AaveGovernanceV2`, `AaveV2Ethereum`, `AaveV2EthereumAssets`, `AaveMisc`).
-/

import AaveV2Payloads.Library.Abi

namespace AaveV2Payloads

open Solidity

/-- The addresses the code imports, under the names they have there. -/
structure AddressBook where
  -- AaveGovernanceV2: GOV, SHORT_EXECUTOR
  gov : Address
  shortExecutor : Address
  -- AaveV2Ethereum: COLLECTOR, COLLECTOR_CONTROLLER; AaveMisc: ECOSYSTEM_RESERVE
  collector : Address
  collectorController : Address
  ecosystemReserve : Address
  -- AaveV2EthereumAssets: USDC_A_TOKEN and the underlying assets
  usdcAToken : Address
  daiUnderlying : Address
  usdcUnderlying : Address
  ensUnderlying : Address
  mkrUnderlying : Address
  snxUnderlying : Address
  crvUnderlying : Address
  dpiUnderlying : Address

/-- The assets the pool payloads name. -/
def AddressBook.namedAssets (book : AddressBook) : List Address :=
  [book.daiUnderlying, book.usdcUnderlying, book.ensUnderlying, book.mkrUnderlying,
    book.snxUnderlying, book.crvUnderlying, book.dpiUnderlying]

/-- A book with the mainnet addresses. -/
def mainnet : AddressBook where
  gov := 0xEC568fffba86c094cf06b22134B23074DFE2252c
  shortExecutor := 0xEE56e2B3D491590B5b31738cC34d5232F378a8D5
  collector := 0x464C71f6c2F760DdA6093dCB91C24c39e5d6e18c
  collectorController := 0x3d569673dAa0575c936c7c67c4E6AedA69CC630C
  ecosystemReserve := 0x25F2226B597E8F9514B3F68F00f494cF4f286491
  usdcAToken := 0xBcca60bB61934080951369a648Fb03DF4F96263C
  daiUnderlying := 0x6B175474E89094C44Da98b954EedeAC495271d0F
  usdcUnderlying := 0xA0b86991c6218b36c1d19D4a2e9Eb0cE3606eB48
  ensUnderlying := 0xC18360217D8F7Ab5e7c516566761Ea12Ce7F9D72
  mkrUnderlying := 0x9f8F72aA9304c8B593d555F12eF6589cC3A579A2
  snxUnderlying := 0xC011a73ee8576Fb46F5E1c5751cA3B9Fe0af2a6F
  crvUnderlying := 0xD533a949740bb3306d119CC777fa900bA034cd52
  dpiUnderlying := 0x1494CA1F11D487c2bBe4543E90080AeBa4BA3C2b

end AaveV2Payloads
